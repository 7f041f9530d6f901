import Mathlib.Data.List.Nodup
import RecordSheet.Mapping.Plan
import RecordSheet.Proofs.Outcome

/-!
# Proofs/Mapping/Columns — the columns of a schema

No two attributes of a schema share a name or a header (`Schema.pairwise_attributes`), and a column
of an attribute holds its plan and what reaches its value (`Attribute.writeColumn_eq_ok`,
`Attribute.readColumn_eq_ok`).
-/

namespace RecordSheet

variable {ρ : Type}

/-! ## The attributes of a schema -/

namespace Schema

/-- **The check of the attributes** asks that each has a name, and a name and a header of its own.
-/
theorem checkAttributes_eq_ok_iff {record : String} {seen attributes : List (Attribute ρ)} :
    checkAttributes record seen attributes = .ok () ↔
      (∀ a ∈ attributes, Text.isBlank a.name = false ∧
        ∀ b ∈ seen, b.name ≠ a.name ∧ b.header ≠ a.header) ∧
        attributes.Pairwise fun a b => a.name ≠ b.name ∧ a.header ≠ b.header := by
  induction attributes generalizing seen with
  | nil => simp [checkAttributes]
  | cons a rest ih =>
    rw [List.forall_mem_cons, List.pairwise_cons, checkAttributes]
    split
    · rename_i hblank
      simp [hblank]
    · rename_i hblank
      split
      · rename_i hname
        obtain ⟨b, hb, hbn⟩ := List.any_eq_true.1 hname
        refine ⟨nofun, fun h => ?_⟩
        exact absurd (of_decide_eq_true hbn) (h.1.1.2 b hb).1
      · rename_i hname
        have hfresh : ∀ b ∈ seen, b.name ≠ a.name := fun b hb heq =>
          hname (List.any_eq_true.2 ⟨b, hb, decide_eq_true heq⟩)
        split
        · rename_i b hb
          refine ⟨nofun, fun h => ?_⟩
          have hbh := List.find?_some hb
          exact absurd (of_decide_eq_true hbh) (h.1.1.2 b (List.mem_of_find?_eq_some hb)).2
        · rename_i hheader
          have hfresh' : ∀ b ∈ seen, b.header ≠ a.header := fun b hb heq =>
            List.find?_eq_none.1 hheader b hb (decide_eq_true heq)
          rw [ih]
          constructor
          · rintro ⟨hrest, hpair⟩
            have hvisible : Text.isBlank a.name = false := by simpa using hblank
            refine ⟨⟨⟨hvisible, fun b hb => ⟨hfresh b hb, hfresh' b hb⟩⟩, ?_⟩, ?_, hpair⟩
            · exact fun c hc => ⟨(hrest c hc).1, fun b hb => (hrest c hc).2 b (.tail _ hb)⟩
            · exact fun c hc => (hrest c hc).2 a (.head _)
          · rintro ⟨⟨-, hrest⟩, ha, hpair⟩
            refine ⟨fun c hc => ⟨(hrest c hc).1, fun b hb => ?_⟩, hpair⟩
            rcases List.mem_cons.1 hb with rfl | hb
            · exact ha c hc
            · exact (hrest c hc).2 b hb

/-- **No two attributes share a name or a header.** -/
theorem pairwise_attributes (s : Schema ρ) :
    s.attributes.Pairwise fun a b => a.name ≠ b.name ∧ a.header ≠ b.header := by
  have h := s.checked
  rw [check] at h
  split at h
  · cases h
  · exact (checkAttributes_eq_ok_iff.1 h).2

theorem names_nodup (s : Schema ρ) : (s.attributes.map Attribute.name).Nodup := by
  rw [List.nodup_iff_pairwise_ne, List.pairwise_map]
  exact s.pairwise_attributes.imp fun h => h.1

theorem headers_nodup (s : Schema ρ) : (s.attributes.map Attribute.header).Nodup := by
  rw [List.nodup_iff_pairwise_ne, List.pairwise_map]
  exact s.pairwise_attributes.imp fun h => h.2

/-- **An attribute is found under its name,** and under no other. -/
theorem attribute?_eq_some_iff {s : Schema ρ} {name : String} {a : Attribute ρ} :
    s.attribute? name = some a ↔ a ∈ s.attributes ∧ a.name = name := by
  have hfound : ∀ {b}, s.attribute? name = some b → b ∈ s.attributes ∧ b.name = name := by
    intro b h
    rw [attribute?] at h
    have hname := List.find?_some h
    exact ⟨List.mem_of_find?_eq_some h, of_decide_eq_true hname⟩
  refine ⟨hfound, fun ⟨ha, hname⟩ => ?_⟩
  cases h : s.attribute? name with
  | none => exact absurd (decide_eq_true hname) (List.find?_eq_none.1 h a ha)
  | some b =>
    have heq := List.inj_on_of_nodup_map s.names_nodup (hfound h).1 ha
    exact congrArg some (heq ((hfound h).2.trans hname.symm))

theorem map_fst_described (s : Schema ρ) : s.described.map Prod.fst = s.attributes := by
  rw [described, List.map_map]
  exact List.zipIdx_map_fst 0 s.attributes

/-- The identity of an attribute has its name and its type. -/
theorem mem_described {s : Schema ρ} {a : Attribute ρ} {d : Descriptor} (h : (a, d) ∈ s.described) :
    a ∈ s.attributes ∧ d.name = a.name ∧ d.type = a.type := by
  refine ⟨s.map_fst_described ▸ List.mem_map.2 ⟨_, h, rfl⟩, ?_⟩
  obtain ⟨⟨b, i⟩, -, heq⟩ := List.mem_map.1 h
  obtain ⟨rfl, rfl⟩ := Prod.mk.inj heq
  exact ⟨rfl, rfl⟩

end Schema

/-! ## The columns of an attribute -/

namespace Attribute

/-- What reads the attribute in a run. -/
def getter? (a : Attribute ρ) (o : Options) : Option (Getter ρ) :=
  o.reach? a.type a.accessorGet a.fieldGet

/-- What assigns the attribute in a run. -/
def setter? (a : Attribute ρ) (o : Options) : Option (Setter ρ) :=
  o.reach? a.type a.accessorSet a.fieldSet

variable {a : Attribute ρ} {d : Descriptor} {inherited : Option String} {registry : Registry}
  {o : Options}

theorem plan_eq_ok_iff {direction : Direction} {accessor : Bool} {p : Plan} :
    a.plan d inherited registry o direction accessor = .ok p ↔
      ∃ shape, d.type.shape = .ok shape ∧
        ((a.expression direction).isSome → o.evaluator.isSome) ∧
          a.planOf d inherited registry o direction accessor shape = p := by
  have hcond : ((a.expression direction).isSome && o.evaluator.isNone) = true ↔
      ¬ ((a.expression direction).isSome → o.evaluator.isSome) := by
    cases a.expression direction <;> cases o.evaluator <;> simp
  rw [plan, Outcome.bind_eq_ok_iff]
  refine exists_congr fun shape => ?_
  rw [Outcome.mapError_eq_ok_iff]
  refine and_congr_right fun _ => ?_
  split
  · rename_i h
    exact ⟨nofun, fun h' => absurd h'.1 (hcond.1 h)⟩
  · rename_i h
    rw [and_iff_right (not_not.1 fun h' => h (hcond.2 h'))]
    exact ⟨fun h => Except.ok.inj h, fun h => congrArg _ h⟩

/-- The plan of a column to write is one that the attribute allows. -/
theorem plan_of_writeColumn {column : WriteColumn ρ}
    (h : a.writeColumn d inherited registry o = .ok column) :
    ∃ accessor, a.plan d inherited registry o .write accessor = .ok column.plan := by
  obtain ⟨p, hp, h⟩ := Outcome.bind_eq_ok_iff.1 h
  split at h
  · obtain rfl := Except.ok.inj h
    exact ⟨_, hp⟩
  · cases h

/-- The plan of a column to read is one that the attribute allows. -/
theorem plan_of_readColumn {column : ReadColumn ρ}
    (h : a.readColumn d inherited registry o = .ok column) :
    ∃ accessor, a.plan d inherited registry o .read accessor = .ok column.plan := by
  obtain ⟨p, hp, h⟩ := Outcome.bind_eq_ok_iff.1 h
  obtain rfl := Except.ok.inj h
  exact ⟨_, hp⟩

/-- **A column to write** holds a plan of the attribute and what reads it. -/
theorem writeColumn_eq_ok {column : WriteColumn ρ}
    (h : a.writeColumn d inherited registry o = .ok column) :
    ∃ accessor shape, d.type.shape = .ok shape ∧
      column.plan = a.planOf d inherited registry o .write accessor shape ∧
        o.reach? d.type a.accessorGet a.fieldGet = some column.get := by
  obtain ⟨p, hp, h⟩ := Outcome.bind_eq_ok_iff.1 h
  obtain ⟨shape, hshape, -, rfl⟩ := plan_eq_ok_iff.1 hp
  cases hget : o.reach? d.type a.accessorGet a.fieldGet with
  | none =>
    rw [hget] at h
    cases h
  | some get =>
    rw [hget] at h
    obtain rfl := Except.ok.inj h
    exact ⟨_, shape, hshape, rfl, rfl⟩

/-- **A column to read** holds a plan of the attribute and what assigns it, if anything does. -/
theorem readColumn_eq_ok {column : ReadColumn ρ}
    (h : a.readColumn d inherited registry o = .ok column) :
    ∃ accessor shape, d.type.shape = .ok shape ∧
      column.plan = a.planOf d inherited registry o .read accessor shape ∧
        column.set = o.reach? d.type a.accessorSet a.fieldSet := by
  obtain ⟨p, hp, h⟩ := Outcome.bind_eq_ok_iff.1 h
  obtain ⟨shape, hshape, -, rfl⟩ := plan_eq_ok_iff.1 hp
  obtain rfl := Except.ok.inj h
  exact ⟨_, shape, hshape, rfl, rfl⟩

end Attribute

namespace Schema

variable {s : Schema ρ} {registry : Registry} {o : Options}

/-- **What the columns have of their attributes,** they have in order. -/
theorem map_eq_map_attributes {κ β : Type} {make : Attribute ρ × Descriptor → Except SetupFault κ}
    {columns : List κ} (h : s.described.mapM make = .ok columns) {f : κ → β} {g : Attribute ρ → β}
    (hfg : ∀ a i c, make (a, s.descriptor a i) = .ok c → f c = g a) :
    columns.map f = s.attributes.map g := by
  have hall := Outcome.mapM_eq_ok_iff.1 h
  rw [described, List.forall₂_map_left_iff] at hall
  rw [← List.zipIdx_map_fst 0 s.attributes, List.map_map]
  exact (Outcome.map_eq_map_of_forall₂ hall fun e c hc => (hfg e.1 e.2 c hc).symm).symm

/-- **There is one column to write for each attribute,** in order. -/
theorem map_descriptor_writeColumns {columns : List (WriteColumn ρ)}
    (h : s.writeColumns registry o = .ok columns) :
    (columns.map fun c => c.plan.descriptor) = s.descriptors := by
  refine (Outcome.map_eq_map_of_forall₂ (Outcome.mapM_eq_ok_iff.1 h) fun e c hc => ?_).symm
  obtain ⟨_, _, -, hplan, -⟩ := Attribute.writeColumn_eq_ok hc
  rw [hplan]
  rfl

/-- The columns to write have the headers of the attributes. -/
theorem map_header_writeColumns {columns : List (WriteColumn ρ)}
    (h : s.writeColumns registry o = .ok columns) :
    (columns.map fun c => c.plan.header) = s.attributes.map Attribute.header := by
  refine map_eq_map_attributes h fun a i c hc => ?_
  obtain ⟨_, _, -, hplan, -⟩ := Attribute.writeColumn_eq_ok hc
  rw [hplan]
  rfl

/-- **There is one column to read for each attribute,** in order. -/
theorem map_descriptor_readColumns {columns : List (ReadColumn ρ)}
    (h : s.readColumns registry o = .ok columns) :
    (columns.map fun c => c.plan.descriptor) = s.descriptors := by
  refine (Outcome.map_eq_map_of_forall₂ (Outcome.mapM_eq_ok_iff.1 h) fun e c hc => ?_).symm
  obtain ⟨_, _, -, hplan, -⟩ := Attribute.readColumn_eq_ok hc
  rw [hplan]
  rfl

/-- What is made of the attributes in order is made of each at its position. -/
theorem exists_attribute_of_mapM {β : Type} {f : Attribute ρ × Descriptor → Except SetupFault β}
    {columns : List β} (h : s.described.mapM f = .ok columns) {i : Nat} {column : β}
    (hi : columns[i]? = some column) :
    ∃ a, s.attributes[i]? = some a ∧ f (a, s.descriptor a i) = .ok column := by
  obtain ⟨hlength, hall⟩ := List.forall₂_iff_get.1 (Outcome.mapM_eq_ok_iff.1 h)
  obtain ⟨hlt, rfl⟩ := List.getElem?_eq_some_iff.1 hi
  have hcolumn := hall i (hlength ▸ hlt) hlt
  simp only [List.get_eq_getElem, described, List.getElem_map, List.getElem_zipIdx,
    Nat.zero_add] at hcolumn
  exact ⟨_, List.getElem?_eq_getElem _, hcolumn⟩

/-- **A column to write is that of the attribute at its position.** -/
theorem exists_attribute_of_writeColumns {columns : List (WriteColumn ρ)}
    (h : s.writeColumns registry o = .ok columns) {i : Nat} {column : WriteColumn ρ}
    (hi : columns[i]? = some column) :
    ∃ a, s.attributes[i]? = some a ∧
      a.writeColumn (s.descriptor a i) s.fallback registry o = .ok column :=
  exists_attribute_of_mapM h hi

/-- **A column to read is that of the attribute at its position.** -/
theorem exists_attribute_of_readColumns {columns : List (ReadColumn ρ)}
    (h : s.readColumns registry o = .ok columns) {i : Nat} {column : ReadColumn ρ}
    (hi : columns[i]? = some column) :
    ∃ a, s.attributes[i]? = some a ∧
      a.readColumn (s.descriptor a i) s.fallback registry o = .ok column :=
  exists_attribute_of_mapM h hi

theorem length_descriptors (s : Schema ρ) : s.descriptors.length = s.attributes.length := by
  rw [← s.map_fst_described, descriptors, List.length_map, List.length_map]

end Schema

end RecordSheet
