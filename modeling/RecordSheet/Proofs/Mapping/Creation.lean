import RecordSheet.Mapping.Creation
import RecordSheet.Proofs.Mapping.Columns

/-!
# Proofs/Mapping/Creation — parameters and their attributes

The creator of a schema has each of its parameters bound to an attribute of the parameter's type,
and no attribute twice (`Schema.sound_creation`).  So the values of all attributes always hold the
arguments of the creator (`Creation.Sound.exists_arguments`).
-/

namespace RecordSheet

variable {ρ : Type}

namespace Schema

variable {s : Schema ρ} {c : Creator ρ}

/-- **The identities of a schema** are those of its attributes at their positions. -/
theorem mem_descriptors {d : Descriptor} (h : d ∈ s.descriptors) :
    ∃ a, s.attributes[d.index]? = some a ∧ d = s.descriptor a d.index := by
  obtain ⟨e, he, rfl⟩ := List.mem_map.1 h
  obtain ⟨⟨a, i⟩, hi, rfl⟩ := List.mem_map.1 he
  exact ⟨a, List.mk_mem_zipIdx_iff_getElem?.1 hi, rfl⟩

/-- The attribute of a parameter is one of the schema and has the parameter's type. -/
theorem parameterSource_eq_ok {p : Parameter} {i : Nat} {d : Descriptor} {mode : BindingMode}
    (h : s.parameterSource c p i = .ok (d, mode)) : d ∈ s.descriptors ∧ d.type = p.type := by
  have hsame : ∀ e ∈ s.descriptors.filter (fun e => e.type = p.type),
      e ∈ s.descriptors ∧ e.type = p.type := fun e he =>
    (List.mem_filter.1 he).imp_right of_decide_eq_true
  rw [parameterSource] at h
  split at h
  · cases h
  · rename_i e _ hd _
    obtain ⟨rfl, -⟩ := Prod.mk.inj (Except.ok.inj h)
    exact hsame e (hd ▸ List.mem_singleton_self e)
  · split at h
    · cases h
    · split at h
      · rename_i e hd
        obtain ⟨rfl, -⟩ := Prod.mk.inj (Except.ok.inj h)
        exact hsame e (List.mem_of_mem_filter (hd ▸ List.mem_singleton_self e))
      · cases h

/-- The binding is that of a parameter at its position, to the attribute that it takes. -/
structure Binds (s : Schema ρ) (c : Creator ρ) (e : Parameter × Nat) (b : ParameterBinding) :
    Prop where
  parameter : b.parameter = e.1
  index : b.index = e.2
  source : s.parameterSource c e.1 e.2 = .ok (b.source, b.mode)

/-- **Parameters are bound in order,** none to an attribute that is bound already. -/
theorem bindParameters_eq_ok_iff {bound : List Nat} {es : List (Parameter × Nat)}
    {bindings : List ParameterBinding} :
    s.bindParameters c bound es = .ok bindings ↔
      List.Forall₂ (s.Binds c) es bindings ∧ (bindings.map fun b => b.source.index).Nodup ∧
        ∀ b ∈ bindings, b.source.index ∉ bound := by
  induction es generalizing bound bindings with
  | nil =>
    rw [List.forall₂_nil_left_iff]
    constructor
    · intro h
      obtain rfl := Except.ok.inj h
      exact ⟨rfl, List.nodup_nil, List.forall_mem_nil _⟩
    · rintro ⟨rfl, -, -⟩
      rfl
  | cons e es ih =>
    rw [bindParameters, Outcome.bind_eq_ok_iff, List.forall₂_cons_left_iff]
    constructor
    · rintro ⟨⟨d, mode⟩, hd, h⟩
      dsimp only at h
      by_cases hfresh : d.index ∈ bound
      · rw [if_pos hfresh] at h
        cases h
      · rw [if_neg hfresh] at h
        obtain ⟨rest, hrest, h⟩ := Outcome.bind_eq_ok_iff.1 h
        obtain rfl := Except.ok.inj h
        obtain ⟨hbinds, hnodup, hbound⟩ := ih.1 hrest
        refine ⟨⟨_, rest, ⟨rfl, rfl, hd⟩, hbinds, rfl⟩, ?_, ?_⟩
        · refine List.nodup_cons.2 ⟨fun hd => ?_, hnodup⟩
          obtain ⟨b, hb, heq⟩ := List.mem_map.1 hd
          exact hbound b hb (heq ▸ List.mem_cons_self)
        · exact List.forall_mem_cons.2
            ⟨hfresh, fun b hb hmem => hbound b hb (List.mem_cons_of_mem _ hmem)⟩
    · rintro ⟨⟨b, rest, hb, hrest, rfl⟩, hnodup, hbound⟩
      obtain ⟨hb', hnodup⟩ := List.nodup_cons.1 hnodup
      obtain ⟨hfresh, hbound⟩ := List.forall_mem_cons.1 hbound
      refine ⟨_, hb.source, ?_⟩
      dsimp only
      rw [if_neg hfresh]
      refine Outcome.bind_eq_ok_iff.2 ⟨rest, ih.2 ⟨hrest, hnodup, fun d hd hmem => ?_⟩, ?_⟩
      · obtain heq | hmem := List.mem_cons.1 hmem
        · exact hb' (List.mem_map.2 ⟨d, hd, heq⟩)
        · exact hbound d hd hmem
      · rw [← hb.parameter, ← hb.index]
        rfl

end Schema

/-! ## Creations -/

namespace Creation

/-- The parameters of the creator are bound in order, each to an attribute of its type and no two to
one attribute. -/
structure Sound (s : Schema ρ) (c : Creation ρ) : Prop where
  parameters : c.bindings.map ParameterBinding.parameter = c.creator.parameters
  sources : ∀ b ∈ c.bindings, ∃ a, s.attributes[b.source.index]? = some a ∧
    a.type = b.parameter.type
  distinct : (c.bindings.map fun b => b.source.index).Nodup

/-- An attribute is bound when a binding has it as its source. -/
theorem isBound_iff {c : Creation ρ} {i : Nat} :
    c.isBound i = true ↔ ∃ b ∈ c.bindings, b.source.index = i := by
  simp only [isBound, List.any_eq_true, beq_iff_eq]

end Creation

/-- **The creator of a schema is soundly bound.** -/
theorem Schema.sound_creation {s : Schema ρ} {c : Creation ρ} (h : s.creation = .ok c) :
    c.Sound s := by
  obtain ⟨creator, -, h⟩ := Outcome.bind_eq_ok_iff.1 h
  obtain ⟨bindings, hbind, h⟩ := Outcome.bind_eq_ok_iff.1 h
  obtain rfl := Except.ok.inj h
  obtain ⟨hbinds, hdistinct, -⟩ := bindParameters_eq_ok_iff.1 hbind
  refine ⟨?_, fun b hb => ?_, hdistinct⟩
  · have hsame := Outcome.map_eq_map_of_forall₂ hbinds fun _ _ he => he.parameter.symm
    exact hsame.symm.trans (List.zipIdx_map_fst 0 creator.parameters)
  · obtain ⟨e, -, he⟩ := Outcome.exists_of_forall₂ hbinds hb
    obtain ⟨hmem, htype⟩ := parameterSource_eq_ok he.source
    obtain ⟨a, ha, hdesc⟩ := mem_descriptors hmem
    refine ⟨a, ha, ?_⟩
    rw [he.parameter, ← htype, hdesc]
    rfl

namespace Creation

variable {s : Schema ρ} {c : Creation ρ} {values : List Value}

/-- The arguments are the values of the bound attributes, in the order of the parameters. -/
theorem arguments_eq_ok_iff {arguments : List Value} :
    c.arguments values = .ok arguments ↔
      List.Forall₂ (fun b v => values[b.source.index]? = some v) c.bindings arguments := by
  rw [Creation.arguments, Outcome.mapM_eq_ok_iff]
  refine ⟨fun h => h.imp fun b v hb => ?_, fun h => h.imp fun b v hb => by rw [hb]⟩
  cases hget : values[b.source.index]? with
  | none => rw [hget] at hb; cases hb
  | some w => rw [hget] at hb; exact congrArg _ (Except.ok.inj hb)

/-- **The values of all attributes hold every argument of the creator.** -/
theorem Sound.exists_arguments (h : c.Sound s) (hlength : values.length = s.attributes.length) :
    ∃ arguments, c.arguments values = .ok arguments := by
  have hvalue : ∀ b ∈ c.bindings, ∃ v, values[b.source.index]? = some v := fun b hb => by
    obtain ⟨a, ha, -⟩ := h.sources b hb
    obtain ⟨hlt, -⟩ := List.getElem?_eq_some_iff.1 ha
    exact ⟨_, List.getElem?_eq_getElem (hlength ▸ hlt)⟩
  obtain ⟨arguments, harguments⟩ := Outcome.exists_forall₂ hvalue
  exact ⟨arguments, arguments_eq_ok_iff.2 harguments⟩

/-- The creator never misses a value. -/
theorem Sound.create_ne_noValue (h : c.Sound s) (hlength : values.length = s.attributes.length)
    (name : String) : c.create values ≠ .error (.noValue name) := by
  obtain ⟨arguments, harguments⟩ := h.exists_arguments hlength
  intro herror
  rw [create, harguments] at herror
  obtain ⟨message, -, hmessage⟩ := Outcome.mapError_eq_error_iff.1 herror
  cases hmessage

end Creation

end RecordSheet
