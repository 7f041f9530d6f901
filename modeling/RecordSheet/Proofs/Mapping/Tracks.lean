import RecordSheet.Proofs.Mapping.Columns
import RecordSheet.Proofs.Mapping.Reader
import RecordSheet.Proofs.Mapping.Route
import RecordSheet.Proofs.Mapping.Writer

/-!
# Proofs/Mapping/Tracks — a writer and a reader side by side

A writer and a reader of one schema plan the same attributes.  A **track** is an attribute with its
column to write and its column to read; the tracks of a run list the attributes in order
(`exists_tracked`), so no two share a name or a header, and the two plans of a track agree on what a
cell means (`Track.Planned.agrees`).
-/

namespace RecordSheet

variable {ρ : Type}

/-- An attribute with its two columns. -/
structure Track (ρ : Type) where
  owner : Attribute ρ
  descriptor : Descriptor
  write : WriteColumn ρ
  read : ReadColumn ρ

/-- The columns are the ones planned for the attribute. -/
structure Track.Planned (s : Schema ρ) (registry : Registry) (o : Options) (t : Track ρ) :
    Prop where
  mem : (t.owner, t.descriptor) ∈ s.described
  write : t.owner.writeColumn t.descriptor s.fallback registry o = .ok t.write
  read : t.owner.readColumn t.descriptor s.fallback registry o = .ok t.read

theorem exists_tracks_of_forall₂ {s : Schema ρ} {registry : Registry} {o : Options}
    {es : List (Attribute ρ × Descriptor)} (hes : ∀ e ∈ es, e ∈ s.described)
    {ws : List (WriteColumn ρ)} {rs : List (ReadColumn ρ)}
    (hw : List.Forall₂ (fun e c => e.1.writeColumn e.2 s.fallback registry o = .ok c) es ws)
    (hr : List.Forall₂ (fun e c => e.1.readColumn e.2 s.fallback registry o = .ok c) es rs) :
    ∃ ts : List (Track ρ), ts.map Track.owner = es.map Prod.fst ∧ ts.map Track.write = ws ∧
      ts.map Track.read = rs ∧ ∀ t ∈ ts, t.Planned s registry o := by
  induction hw generalizing rs with
  | nil =>
    obtain rfl := List.forall₂_nil_left_iff.1 hr
    exact ⟨[], rfl, rfl, rfl, List.forall_mem_nil _⟩
  | @cons e w es ws hew _ ih =>
    obtain ⟨r, rs, her, hrs, rfl⟩ := List.forall₂_cons_left_iff.1 hr
    rw [List.forall_mem_cons] at hes
    obtain ⟨ts, howner, hwrite, hread, hts⟩ := ih hes.2 hrs
    refine ⟨⟨e.1, e.2, w, r⟩ :: ts, ?_, ?_, ?_, List.forall_mem_cons.2 ⟨⟨hes.1, hew, her⟩, hts⟩⟩
    · rw [List.map_cons, List.map_cons, howner]
    · rw [List.map_cons, hwrite]
    · rw [List.map_cons, hread]

/-- The tracks of a writer and a reader, one for each attribute of their schema in order. -/
structure Tracked (s : Schema ρ) (registry : Registry) (o : Options) (w : Writer ρ) (r : Reader ρ)
    (ts : List (Track ρ)) : Prop where
  owners : ts.map Track.owner = s.attributes
  write : ts.map Track.write = w.columns
  read : ts.map Track.read = r.columns
  planned : ∀ t ∈ ts, t.Planned s registry o
  write_options : w.options = o
  read_options : r.options = o

/-- **A writer and a reader of one schema** have the same tracks. -/
theorem exists_tracked {s : Schema ρ} {registry : Registry} {o : Options} {w : Writer ρ}
    {r : Reader ρ} (hw : Writer.make s registry o = .ok w) (hr : Reader.make s registry o = .ok r) :
    ∃ ts, Tracked s registry o w r ts := by
  obtain ⟨hwrite, hwo⟩ := Writer.make_eq_ok hw
  obtain ⟨hread, hro, -⟩ := Reader.make_eq_ok hr
  obtain ⟨ts, howner, hws, hrs, hts⟩ := exists_tracks_of_forall₂ (fun _ he => he)
    (Outcome.mapM_eq_ok_iff.1 hwrite) (Outcome.mapM_eq_ok_iff.1 hread)
  exact ⟨ts, howner.trans s.map_fst_described, hws, hrs, hts, hwo, hro⟩

namespace Track.Planned

variable {s : Schema ρ} {registry : Registry} {o : Options} {t : Track ρ}

/-- **The two plans of a track** differ in the direction and in what goes with it. -/
theorem exists_planOf (h : t.Planned s registry o) :
    ∃ reading writing shape,
      t.write.plan = t.owner.planOf t.descriptor s.fallback registry o .write writing shape ∧
        t.read.plan = t.owner.planOf t.descriptor s.fallback registry o .read reading shape := by
  obtain ⟨writing, shape, hshape, hwrite, -⟩ := Attribute.writeColumn_eq_ok h.write
  obtain ⟨reading, shape', hshape', hread, -⟩ := Attribute.readColumn_eq_ok h.read
  obtain rfl := Except.ok.inj (hshape.symm.trans hshape')
  exact ⟨reading, writing, shape, hwrite, hread⟩

theorem getter?_eq (h : t.Planned s registry o) : t.owner.getter? o = some t.write.get := by
  obtain ⟨-, -, -, -, hget⟩ := Attribute.writeColumn_eq_ok h.write
  rw [Attribute.getter?, ← (Schema.mem_described h.mem).2.2, hget]

theorem setter?_eq (h : t.Planned s registry o) : t.owner.setter? o = t.read.set := by
  obtain ⟨-, -, -, -, hset⟩ := Attribute.readColumn_eq_ok h.read
  rw [Attribute.setter?, ← (Schema.mem_described h.mem).2.2, hset]

/-- **The two plans of a track agree** on what its cells mean. -/
theorem agrees (h : t.Planned s registry o) : t.write.plan.Agrees t.read.plan := by
  obtain ⟨_, _, _, hwrite, hread⟩ := h.exists_planOf
  rw [hwrite, hread]
  exact ⟨rfl, rfl, rfl, rfl⟩

/-- The plans of a track have the name and the header of the attribute. -/
theorem name_eq (h : t.Planned s registry o) : t.read.plan.descriptor.name = t.owner.name := by
  obtain ⟨_, _, _, _, hread⟩ := h.exists_planOf
  rw [hread]
  exact (Schema.mem_described h.mem).2.1

theorem header_eq (h : t.Planned s registry o) :
    t.write.plan.header = t.owner.header ∧ t.read.plan.header = t.owner.header := by
  obtain ⟨_, _, _, hwrite, hread⟩ := h.exists_planOf
  rw [hwrite, hread]
  exact ⟨rfl, rfl⟩

end Track.Planned

namespace Tracked

variable {s : Schema ρ} {registry : Registry} {o : Options} {w : Writer ρ} {r : Reader ρ}
  {ts : List (Track ρ)}

/-- **No two tracks share a name or a header.** -/
theorem pairwise (h : Tracked s registry o w r ts) :
    ts.Pairwise fun t u => t.owner.name ≠ u.owner.name ∧ t.owner.header ≠ u.owner.header := by
  have hpair := s.pairwise_attributes
  rw [← h.owners, List.pairwise_map] at hpair
  exact hpair

theorem names_nodup (h : Tracked s registry o w r ts) :
    (r.columns.map fun c => c.plan.descriptor.name).Nodup := by
  rw [← h.read, List.map_map, List.nodup_iff_pairwise_ne, List.pairwise_map]
  refine h.pairwise.imp_of_mem fun {t u} ht hu hne => ?_
  rw [Function.comp_apply, Function.comp_apply, (h.planned t ht).name_eq, (h.planned u hu).name_eq]
  exact hne.1

theorem headers_eq (h : Tracked s registry o w r ts) :
    w.headers = ts.map (fun t => t.owner.header) ∧
      r.headers = ts.map (fun t => t.owner.header) := by
  rw [Writer.headers, Reader.headers, ← h.write, ← h.read, List.map_map, List.map_map]
  exact ⟨List.map_congr_left fun t ht => (h.planned t ht).header_eq.1,
    List.map_congr_left fun t ht => (h.planned t ht).header_eq.2⟩

theorem headers_nodup (h : Tracked s registry o w r ts) :
    (ts.map fun t => t.owner.header).Nodup := by
  have hnodup := s.headers_nodup
  rw [← h.owners, List.map_map] at hnodup
  exact hnodup

end Tracked

end RecordSheet
