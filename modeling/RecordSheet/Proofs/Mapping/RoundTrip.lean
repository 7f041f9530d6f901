import RecordSheet.Proofs.Mapping.Tracks
import RecordSheet.Record.Slots

/-!
# Proofs/Mapping/RoundTrip — records come back from a sheet

Records are written to a sheet in memory, and its rows are read again by their headers.  Each step
keeps the values of the attributes: a track's cell is read as the value it was written from
(`Tracked.exists_cells`), the setters put the values back one after the other without touching those
already there (`Reader.exists_assignAll`), and the sheet takes the rows in order and loses none
(`returns_of_forall`).  A creator without parameters may still refuse to make a record, and then
nothing comes back (`not_returns_of_refusal`).
-/

namespace RecordSheet

variable {ρ : Type}

/-! ## Schemas that only convert -/

namespace Schema

/-- Every attribute goes through a handler, unchecked. -/
structure Plain (s : Schema ρ) : Prop where
  no_expression : ∀ a ∈ s.attributes, ∀ direction, a.expression direction = none
  unchecked : ∀ a ∈ s.attributes, a.settings.validators = []

/-- A setter given what its getter gives puts it into any record, and leaves all other attributes as
they are. -/
structure LawfulAccess (s : Schema ρ) (o : Options) : Prop where
  restores : ∀ a ∈ s.attributes, ∀ get ∈ a.getter? o, ∀ set ∈ a.setter? o, ∀ x r,
    ∃ r', set r (get x) = .ok r' ∧ get r' = get x
  keeps : ∀ a ∈ s.attributes, ∀ b ∈ s.attributes, a.name ≠ b.name → ∀ set ∈ a.setter? o,
    ∀ get ∈ b.getter? o, ∀ r v r', set r v = .ok r' → get r' = get r

/-- A creator without parameters is bound to nothing. -/
theorem creation_of_selectCreator {s : Schema ρ} {c : Creator ρ} (h : s.selectCreator = .ok c)
    (hp : c.parameters = []) : s.creation = .ok ⟨c, []⟩ := by
  refine Outcome.bind_eq_ok_iff.2 ⟨c, h, Outcome.bind_eq_ok_iff.2 ⟨[], ?_, rfl⟩⟩
  rw [hp]
  rfl

end Schema

theorem Attribute.plain_planOf {a : Attribute ρ} {d : Descriptor} {inherited : Option String}
    {registry : Registry} {o : Options} {direction : Direction} {accessor : Bool} {shape : Shape}
    (he : a.expression direction = none) (hv : a.settings.validators = []) :
    (a.planOf d inherited registry o direction accessor shape).Plain :=
  ⟨by simp [planOf, Plan.usesHandler, he], hv⟩

/-! ## Assigning values -/

namespace Reader

variable {r : Reader ρ}

/-- **The values of a record are put into another one:** each setter gives its attribute the value,
and the later setters keep it. -/
theorem exists_assignAll (hb : r.creation.bindings = []) {ts : List (Track ρ)} {x : ρ}
    (hset : ∀ t ∈ ts, ∃ set, t.read.set = some set ∧ ∀ record, ∃ record',
      set record (t.write.get x) = .ok record' ∧ t.write.get record' = t.write.get x)
    (hkeeps : ts.Pairwise fun t u => ∀ set ∈ u.read.set, ∀ record v record',
      set record v = .ok record' → t.write.get record' = t.write.get record)
    (row : Scope String) (record : ρ) (index : Nat) :
    ∃ y, r.assignAll row record index (ts.map fun t => (t.read, t.write.get x)) = .ok y ∧
      ∀ t ∈ ts, t.write.get y = t.write.get x := by
  induction ts generalizing record index with
  | nil => exact ⟨record, rfl, List.forall_mem_nil _⟩
  | cons t ts ih =>
    rw [List.forall_mem_cons] at hset
    obtain ⟨⟨set, ht, hput⟩, hset⟩ := hset
    obtain ⟨hlater, hkeeps⟩ := List.pairwise_cons.1 hkeeps
    obtain ⟨next, hnext, hget⟩ := hput record
    obtain ⟨y, hy, hall⟩ := ih hset hkeeps next (index + 1)
    refine ⟨y, Outcome.bind_eq_ok_iff.2 ⟨next, assign_of_unbound hb ht hnext index, hy⟩, ?_⟩
    refine List.forall_mem_cons.2 ⟨?_, hall⟩
    rw [assignAll_preserves (g := t.write.get) (fun e he => ?_) hy, hget]
    obtain ⟨u, hu, rfl⟩ := List.mem_map.1 he
    exact hlater u hu

end Reader

/-! ## One record -/

namespace Tracked

variable {s : Schema ρ} {registry : Registry} {o : Options} {w : Writer ρ} {r : Reader ρ}
  {ts : List (Track ρ)}

/-- The plans of a plain schema are plain. -/
theorem plain (h : Tracked s registry o w r ts) (hp : s.Plain) {t : Track ρ} (ht : t ∈ ts) :
    t.write.plan.Plain ∧ t.read.plan.Plain := by
  have hplanned := h.planned t ht
  have hmem := (Schema.mem_described hplanned.mem).1
  have hv := hp.unchecked _ hmem
  obtain ⟨_, _, _, hwrite, hread⟩ := hplanned.exists_planOf
  rw [hwrite, hread]
  exact ⟨Attribute.plain_planOf (hp.no_expression _ hmem _) hv,
    Attribute.plain_planOf (hp.no_expression _ hmem _) hv⟩

/-- **A track's cell is read as the value it was written from.** -/
theorem exists_cell (h : Tracked s registry o w r ts) (hp : s.Plain) {t : Track ρ} (ht : t ∈ ts)
    {x : ρ} (hx : t.write.plan.Survives o.codec (t.write.get x)) :
    ∃ cell : Cell, cell.header = t.owner.header ∧
      (∀ scope, w.cell x scope t.write = .ok cell) ∧
      ∀ row, row.get? t.owner.name = some (cell.text.getD "") →
        t.read.plan.read o row = .ok (t.write.get x) := by
  obtain ⟨hpw, hpr⟩ := h.plain hp ht
  have hplanned := h.planned t ht
  obtain ⟨text, htext, hback⟩ := hx.exists_text hpw hpr hplanned.agrees
  refine ⟨⟨t.write.plan.descriptor.name, _, text⟩, hplanned.header_eq.1, fun scope => ?_,
    hplanned.name_eq ▸ hback⟩
  exact Outcome.bind_eq_ok_iff.2 ⟨text, h.write_options ▸ htext scope, rfl⟩

/-- **A record's cells are read as its values.** -/
theorem exists_cells (h : Tracked s registry o w r ts) (hp : s.Plain) {x : ρ}
    (hx : ∀ c ∈ w.columns, c.plan.Survives o.codec (c.get x)) :
    ∃ cells, w.convert x = .ok cells ∧ cells.map Cell.header = w.headers ∧
      r.values (r.rekey (MemorySheet.rowScope cells)) = .ok (ts.map fun t => t.write.get x) := by
  obtain ⟨cells, hcells⟩ := Outcome.exists_forall₂ fun t ht =>
    h.exists_cell hp ht (hx t.write (h.write ▸ List.mem_map_of_mem ht))
  have hheaders : cells.map Cell.header = ts.map fun t => t.owner.header := by
    rw [← List.forall₂_eq_eq_eq, List.forall₂_map_left_iff, List.forall₂_map_right_iff]
    exact List.Forall₂.flip (hcells.imp fun _ _ hc => hc.1)
  refine ⟨cells, ?_, hheaders.trans h.headers_eq.1.symm, ?_⟩
  · rw [Writer.convert, Outcome.mapM_eq_ok_iff, ← h.write, List.forall₂_map_left_iff]
    exact hcells.imp fun _ _ hc => hc.2.1 _
  · rw [Reader.values, Outcome.mapM_eq_ok_iff, ← h.read, List.forall₂_map_left_iff,
      List.forall₂_map_right_iff, List.forall₂_same]
    intro t ht
    obtain ⟨cell, hmem, hheader, -, hread⟩ := Outcome.exists_of_forall₂_left hcells ht
    rw [h.read_options]
    refine hread _ ((Reader.get?_rekey (h.headers_eq.2 ▸ h.headers_nodup) h.names_nodup).2 ?_)
    refine ⟨t.read, h.read ▸ List.mem_map_of_mem ht, (h.planned t ht).name_eq, ?_⟩
    rw [(h.planned t ht).header_eq.2, ← hheader]
    exact MemorySheet.get?_rowScope (hheaders ▸ h.headers_nodup) hmem

/-- The columns put the values of a record back. -/
theorem exists_set (h : Tracked s registry o w r ts) (hl : s.LawfulAccess o)
    (hset : ∀ c ∈ r.columns, c.set.isSome) (x : ρ) :
    ∀ t ∈ ts, ∃ set, t.read.set = some set ∧ ∀ record, ∃ record',
      set record (t.write.get x) = .ok record' ∧ t.write.get record' = t.write.get x := by
  intro t ht
  have hplanned := h.planned t ht
  have hmem := (Schema.mem_described hplanned.mem).1
  obtain ⟨set, heq⟩ := Option.isSome_iff_exists.1 (hset t.read (h.read ▸ List.mem_map_of_mem ht))
  exact ⟨set, heq, hl.restores _ hmem _ hplanned.getter?_eq _ (hplanned.setter?_eq.trans heq) x⟩

/-- A later column keeps the value of an earlier one. -/
theorem pairwise_keeps (h : Tracked s registry o w r ts) (hl : s.LawfulAccess o) :
    ts.Pairwise fun t u => ∀ set ∈ u.read.set, ∀ record v record',
      set record v = .ok record' → t.write.get record' = t.write.get record := by
  refine h.pairwise.imp_of_mem fun {t u} ht hu hne set hset => ?_
  have hpt := h.planned t ht
  have hpu := h.planned u hu
  exact hl.keeps _ (Schema.mem_described hpu.mem).1 _ (Schema.mem_described hpt.mem).1 hne.1.symm
    set (hpu.setter?_eq.trans hset) _ hpt.getter?_eq

/-- **A record comes back from its cells.** -/
theorem exists_convert (h : Tracked s registry o w r ts) (hp : s.Plain) (hl : s.LawfulAccess o)
    (hset : ∀ c ∈ r.columns, c.set.isSome) {c : Creator ρ} (hc : r.creation = ⟨c, []⟩) {made : ρ}
    (hmade : c.run (.ofList []) = .ok made) {x : ρ}
    (hx : ∀ c ∈ w.columns, c.plan.Survives o.codec (c.get x)) :
    ∃ cells, w.convert x = .ok cells ∧ cells.map Cell.header = w.headers ∧
      ∃ y, r.convert (r.rekey (MemorySheet.rowScope cells)) = .ok y ∧
        ∀ c ∈ w.columns, c.get y = c.get x := by
  obtain ⟨cells, hcells, hheaders, hvalues⟩ := h.exists_cells hp hx
  obtain ⟨y, hy, hget⟩ := Reader.exists_assignAll (r := r) (by rw [hc]) (h.exists_set hl hset x)
    (h.pairwise_keeps hl) (r.rekey (MemorySheet.rowScope cells)) made 0
  refine ⟨cells, hcells, hheaders, y, ?_, ?_⟩
  · refine Outcome.bind_eq_ok_iff.2 ⟨_, hvalues, Outcome.bind_eq_ok_iff.2 ⟨made, ?_, ?_⟩⟩
    · rw [Reader.create, hc, Outcome.mapError_eq_ok_iff]
      exact Outcome.bind_eq_ok_iff.2 ⟨[], rfl, Outcome.mapError_eq_ok_iff.2 hmade⟩
    · rw [← h.read, List.zip_map']
      exact hy
  · rw [← h.write]
    exact List.forall_mem_map.2 hget

end Tracked

/-! ## All records -/

/-- **The records come back from a sheet:** they are written to an empty one, and its rows, read by
their headers, are records with the same values in the same order. -/
def Returns (w : Writer ρ) (r : Reader ρ) (records : List ρ) : Prop :=
  ∃ report sheet, (w.write records).run ({} : MemorySheet) = .ok report sheet ∧
    ∃ back, (sheet.scopes.mapM fun row => r.convert (r.rekey row)) = .ok back ∧
      List.Forall₂ (fun x y => ∀ c ∈ w.columns, c.get y = c.get x) records back

/-- **What comes back** is made from the cells of the records. -/
theorem Returns.exists_back {w : Writer ρ} {r : Reader ρ} {records : List ρ}
    (h : Returns w r records) {rows : List (List Cell)} (hheaders : w.headers.Nodup)
    (hrows : List.Forall₂ (fun x cells => w.convert x = .ok cells) records rows)
    (hcells : ∀ cells ∈ rows, cells.map Cell.header = w.headers) :
    ∃ back, ((rows.map MemorySheet.rowScope).mapM fun row => r.convert (r.rekey row)) = .ok back ∧
      List.Forall₂ (fun x y => ∀ c ∈ w.columns, c.get y = c.get x) records back := by
  obtain ⟨report, sheet, hwrite, back, hback, hall⟩ := h
  obtain ⟨-, rfl⟩ := EStateM.Result.ok.inj (hwrite.symm.trans (Writer.write_eq_ok hheaders hrows))
  rw [MemorySheet.scopes_of_cells hcells] at hback
  exact ⟨back, hback, hall⟩

/-- Where each record comes back from its cells, all of them come back. -/
theorem returns_of_forall {w : Writer ρ} {r : Reader ρ} (hheaders : w.headers.Nodup)
    {records : List ρ}
    (h : ∀ x ∈ records, ∃ cells, w.convert x = .ok cells ∧ cells.map Cell.header = w.headers ∧
      ∃ y, r.convert (r.rekey (MemorySheet.rowScope cells)) = .ok y ∧
        ∀ c ∈ w.columns, c.get y = c.get x) :
    Returns w r records := by
  have hpair : ∀ x ∈ records, ∃ e : List Cell × ρ, w.convert x = .ok e.1 ∧
      e.1.map Cell.header = w.headers ∧
      r.convert (r.rekey (MemorySheet.rowScope e.1)) = .ok e.2 ∧
      ∀ c ∈ w.columns, c.get e.2 = c.get x := fun x hx => by
    obtain ⟨cells, hcells, hheader, y, hy, hget⟩ := h x hx
    exact ⟨(cells, y), hcells, hheader, hy, hget⟩
  obtain ⟨es, hes⟩ := Outcome.exists_forall₂ hpair
  have hheader : ∀ cells ∈ es.map Prod.fst, cells.map Cell.header = w.headers :=
    List.forall_mem_map.2 fun e he => by
      obtain ⟨x, -, -, hx, -⟩ := Outcome.exists_of_forall₂ hes he
      exact hx
  have hwrite := Writer.write_eq_ok hheaders
    (List.forall₂_map_right_iff.2 (hes.imp fun _ _ hx => hx.1))
  refine ⟨_, _, hwrite, es.map Prod.snd, ?_,
    List.forall₂_map_right_iff.2 (hes.imp fun _ _ hx => hx.2.2.2)⟩
  rw [MemorySheet.scopes_of_cells hheader, Outcome.mapM_eq_ok_iff, List.forall₂_map_left_iff,
    List.forall₂_map_left_iff, List.forall₂_map_right_iff, List.forall₂_same]
  intro e he
  obtain ⟨x, -, -, -, hx, -⟩ := Outcome.exists_of_forall₂ hes he
  exact hx

/-! ## Records of slots -/

/-- An attribute in the slot of its name. -/
def Attribute.inSlot (name : String) (type : DeclaredType) : Attribute SlotRecord where
  name := name
  type := type
  fieldGet := some (SlotRecord.getter name)
  fieldSet := some (SlotRecord.setter name .any)

namespace Schema

variable {s : Schema SlotRecord} {o : Options}

theorem plain_of_inSlot (h : ∀ a ∈ s.attributes, a = .inSlot a.name a.type) : s.Plain where
  no_expression a ha direction := by
    rw [h a ha]
    cases direction <;> rfl
  unchecked a ha := by
    rw [h a ha]
    rfl

/-- **Slots are set and kept** independently of each other. -/
theorem lawfulAccess_of_inSlot (h : ∀ a ∈ s.attributes, a = .inSlot a.name a.type) :
    s.LawfulAccess o := by
  have hget : ∀ a ∈ s.attributes, ∀ get ∈ a.getter? o, get = SlotRecord.getter a.name := by
    intro a ha get hg
    rw [h a ha] at hg
    exact (Option.some.inj hg).symm
  have hset : ∀ a ∈ s.attributes, ∀ set ∈ a.setter? o, ∀ r v,
      set r v = .ok (r.insert a.name v) := by
    intro a ha set hs r v
    rw [h a ha] at hs
    rw [← Option.some.inj hs]
    rfl
  refine ⟨fun a ha get hg set hs x r => ?_, fun a ha b hb hne set hs get hg r v r' hr => ?_⟩
  · refine ⟨_, hset a ha set hs r _, ?_⟩
    obtain rfl := hget a ha get hg
    rw [SlotRecord.getter, Scope.get?_insert, if_pos rfl]
    rfl
  · obtain rfl := hget b hb get hg
    rw [hset a ha set hs] at hr
    rw [← Except.ok.inj hr, SlotRecord.getter, Scope.get?_insert, if_neg hne.symm]
    rfl

end Schema

/-! ## Whether records come back -/

/-- **Records survive a sheet** that a plain schema with lawful setters writes and reads, when each
value survives its cell and the creator makes a record from nothing. -/
theorem returns_of_survives {s : Schema ρ} {registry : Registry} {o : Options} {w : Writer ρ}
    {r : Reader ρ} (hw : Writer.make s registry o = .ok w) (hr : Reader.make s registry o = .ok r)
    (hp : s.Plain) (hl : s.LawfulAccess o) {c : Creator ρ} (hc : s.selectCreator = .ok c)
    (hparameters : c.parameters = []) {made : ρ} (hmade : c.run (.ofList []) = .ok made)
    {records : List ρ}
    (hsurvives : ∀ x ∈ records, ∀ column ∈ w.columns, column.plan.Survives o.codec (column.get x)) :
    Returns w r records := by
  obtain ⟨ts, hts⟩ := exists_tracked hw hr
  obtain ⟨-, -, hcreation, -⟩ := Reader.make_eq_ok hr
  have hcr : r.creation = ⟨c, []⟩ :=
    Except.ok.inj (hcreation.symm.trans (Schema.creation_of_selectCreator hc hparameters))
  have hset := Reader.isSome_set_of_unbound hr (by rw [hcr])
  refine returns_of_forall (hts.headers_eq.1 ▸ hts.headers_nodup) fun x hx => ?_
  exact hts.exists_convert hp hl hset hcr hmade (hsurvives x hx)

/-- Two records of a text and a list of texts come back, with an absent element in one list, no text
in the second record, and no element in the other list. -/
theorem returns_of_survives_slots :
    let s : Schema SlotRecord := ⟨"Row", none,
      [.inSlot "name" (.scalar .string), .inSlot "tags" (.array (.scalar .string))],
      [.constant "make" .empty], rfl⟩
    ∃ w r, Writer.make s .builtin {} = .ok w ∧ Reader.make s .builtin {} = .ok r ∧
      Returns w r [.ofList [("name", .str "Ada"), ("tags", .seq [.str "a", .null])],
        .ofList [("tags", .seq [])]] := by
  intro s
  have hslots : ∀ a ∈ s.attributes, a = .inSlot a.name a.type :=
    List.forall_mem_cons.2 ⟨rfl, List.forall_mem_singleton.2 rfl⟩
  have hlawful : s.LawfulAccess {} := Schema.lawfulAccess_of_inSlot hslots
  refine ⟨_, _, rfl, rfl,
    returns_of_survives rfl rfl (Schema.plain_of_inSlot hslots) hlawful rfl rfl
    rfl ?_⟩
  refine List.forall_mem_cons.2 ⟨List.forall_mem_cons.2 ⟨?_, List.forall_mem_singleton.2 ?_⟩,
    List.forall_mem_singleton.2 (List.forall_mem_cons.2 ⟨?_, List.forall_mem_singleton.2 ?_⟩)⟩
  · exact .inl ⟨"Ada", rfl, by decide, rfl⟩
  · refine Plan.survives_of_fits SequenceCodec.nestable_default (h := .string) rfl
      ⟨_, rfl, by decide, List.forall_mem_cons.2 ⟨.inl (Handler.fits_string (by decide)), ?_⟩⟩
    exact List.forall_mem_singleton.2 (.inr ⟨rfl, .string, rfl, rfl⟩)
  · exact .inr ⟨⟨none, rfl, rfl⟩, rfl, rfl⟩
  · exact Plan.survives_of_fits SequenceCodec.nestable_default (h := .string) rfl
      ⟨[], rfl, by decide, nofun⟩

/-- **Nothing comes back** from a creator that refuses to make a record. -/
theorem not_returns_of_refusal {w : Writer ρ} {r : Reader ρ}
    (hc : ∀ arguments, ∃ message, r.creation.creator.run arguments = .error message)
    {records : List ρ} (hne : records ≠ []) : ¬ Returns w r records := by
  rintro ⟨report, sheet, -, back, hback, hall⟩
  obtain ⟨x, rest, rfl⟩ := List.exists_cons_of_ne_nil hne
  obtain ⟨y, hy, -⟩ := Outcome.exists_of_forall₂_left hall List.mem_cons_self
  obtain ⟨row, -, hrow⟩ := Outcome.exists_of_forall₂ (Outcome.mapM_eq_ok_iff.1 hback) hy
  obtain ⟨values, -, hcreate⟩ := Outcome.bind_eq_ok_iff.1 hrow
  obtain ⟨made, hmade, -⟩ := Outcome.bind_eq_ok_iff.1 hcreate
  obtain ⟨vs, -, hrun⟩ := Outcome.bind_eq_ok_iff.1 (Outcome.mapError_eq_ok_iff.1 hmade)
  obtain ⟨message, herr⟩ := hc (.ofList vs)
  rw [Outcome.mapError_eq_ok_iff, herr] at hrun
  cases hrun

/-- Rows of one text in a slot, made by the given creator. -/
def textRows (c : Creator SlotRecord) : Schema SlotRecord :=
  ⟨"Row", none, [.inSlot "name" (.scalar .string)], [c], rfl⟩

/-- A constructor without parameters that makes no record. -/
def Creator.refusing (name message : String) : Creator ρ :=
  ⟨name, false, false, [], fun _ => .error message⟩

/-- The options of a run that puts a text in the place of every absent value. -/
def Options.standIn (text : String) : Options where
  fallback := some fun _ => some text

theorem textRows_inSlot (c : Creator SlotRecord) :
    ∀ a ∈ (textRows c).attributes, a = .inSlot a.name a.type :=
  List.forall_mem_singleton.2 rfl

/-- Two records do not come back: one from a constructor that refuses, and one without a text from a
run that writes another in its place. -/
theorem exists_not_returns :
    (∀ c o, (textRows c).Plain ∧ (textRows c).LawfulAccess o) ∧
      (∃ w r, Writer.make (textRows (.refusing "make" "closed")) .builtin {} = .ok w ∧
        Reader.make (textRows (.refusing "make" "closed")) .builtin {} = .ok r ∧
        (∀ c ∈ w.columns, c.plan.Survives {} (c.get (.ofList [("name", .str "Ada")]))) ∧
        ¬ Returns w r [.ofList [("name", .str "Ada")]]) ∧
      ∃ w r, Writer.make (textRows (.constant "make" .empty)) .builtin (.standIn "none") = .ok w ∧
        Reader.make (textRows (.constant "make" .empty)) .builtin (.standIn "none") = .ok r ∧
        (∀ c ∈ w.columns, c.plan.encode {} c.plan.shape (c.get .empty) = .ok none ∧
          c.get .empty = .neutral c.plan.shape) ∧
        ¬ Returns w r [.empty] := by
  refine ⟨fun c o => ⟨Schema.plain_of_inSlot (textRows_inSlot c),
      Schema.lawfulAccess_of_inSlot (textRows_inSlot c)⟩,
    ⟨_, _, rfl, rfl, ?_, ?_⟩, ⟨_, _, rfl, rfl, ?_, ?_⟩⟩
  · exact List.forall_mem_singleton.2 (.inl ⟨"Ada", rfl, by decide, rfl⟩)
  · exact not_returns_of_refusal (fun _ => ⟨"closed", rfl⟩) (by simp)
  · exact List.forall_mem_singleton.2 ⟨rfl, rfl⟩
  · intro h
    obtain ⟨back, hback, hall⟩ := h.exists_back (List.nodup_singleton _)
      (.cons (b := [⟨"name", "name", some "none"⟩]) rfl .nil) (List.forall_mem_singleton.2 rfl)
    obtain rfl : [(.ofList [("name", .str "none")] : SlotRecord)] = back := Except.ok.inj hback
    obtain ⟨hget, -⟩ := List.forall₂_cons.1 hall
    exact absurd (hget _ List.mem_cons_self) (by decide)

end RecordSheet
