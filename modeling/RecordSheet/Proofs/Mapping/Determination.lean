import Mathlib.Data.List.Nodup
import RecordSheet.Proofs.Mapping.Creation

/-!
# Proofs/Mapping/Determination — when parameters determine their attributes

The creator of a schema is the one that is marked, or else the first constructor without parameters
(`Schema.Chooses`).  A type that one parameter and one attribute have binds the two; where more have
it, each parameter of the type needs a name of its own, and an attribute of that name and type
(`Schema.Determined`).  A schema has a creation exactly when its creator is chosen and determined in
this way, and the order of its attributes has no part in it (`Schema.creation_determined`).
-/

namespace RecordSheet

variable {ρ : Type}

open Outcome

/-- A constructor without parameters. -/
def Creator.IsPlain (c : Creator ρ) : Prop :=
  c.isFactory = false ∧ c.parameters = []

/-- The parameters with the names of their attributes. -/
def Creation.names (r : Creation ρ) : List (Parameter × String) :=
  r.bindings.map fun b => (b.parameter, b.source.name)

namespace Schema

variable {s s' : Schema ρ} {c : Creator ρ} {p : Parameter} {d : Descriptor} {mode : BindingMode}
  {t : DeclaredType} {bindings : List ParameterBinding}

/-! ## The creator -/

/-- **The creator of a schema:** the only one that is marked or, when none is, the first constructor
without parameters. -/
inductive Chooses (s : Schema ρ) (c : Creator ρ) : Prop
  | marked {before after : List (Creator ρ)} (h : s.creators = before ++ c :: after)
    (hc : c.marked = true) (hothers : ∀ d ∈ before ++ after, d.marked = false)
  | plain {before after : List (Creator ρ)} (h : s.creators = before ++ c :: after)
    (hmarked : ∀ d ∈ s.creators, d.marked = false) (hc : c.IsPlain)
    (hbefore : ∀ d ∈ before, ¬ d.IsPlain)

theorem filter_marked_eq_singleton_iff :
    s.creators.filter Creator.marked = [c] ↔
      ∃ before after, s.creators = before ++ c :: after ∧ c.marked = true ∧
        ∀ d ∈ before ++ after, d.marked = false := by
  rw [List.filter_eq_cons_iff]
  refine exists_congr fun before => exists_congr fun after => and_congr_right fun _ => ?_
  rw [List.filter_eq_nil_iff, and_left_comm, List.forall_mem_append]
  simp only [Bool.not_eq_true]

theorem find?_plain_eq_some_iff :
    (s.creators.find? fun c => !c.isFactory && c.parameters.isEmpty) = some c ↔
      ∃ before after, s.creators = before ++ c :: after ∧ c.IsPlain ∧
        ∀ d ∈ before, ¬ d.IsPlain := by
  have hplain : ∀ d : Creator ρ, (!d.isFactory && d.parameters.isEmpty) = true ↔ d.IsPlain :=
    fun d => by rw [Bool.and_eq_true, Bool.not_eq_true', List.isEmpty_iff, Creator.IsPlain]
  rw [List.find?_eq_some_iff_append, hplain]
  simp only [Bool.not_eq_true', ← Bool.not_eq_true, hplain]
  constructor
  · rintro ⟨hc, before, after, h, hbefore⟩
    exact ⟨before, after, h, hc, hbefore⟩
  · rintro ⟨before, after, h, hc, hbefore⟩
    exact ⟨hc, before, after, h, hbefore⟩

theorem chooses_iff :
    s.Chooses c ↔ s.creators.filter Creator.marked = [c] ∨
      s.creators.filter Creator.marked = [] ∧
        (s.creators.find? fun c => !c.isFactory && c.parameters.isEmpty) = some c := by
  rw [filter_marked_eq_singleton_iff, find?_plain_eq_some_iff, List.filter_eq_nil_iff]
  constructor
  · rintro (⟨h, hc, hothers⟩ | ⟨h, hmarked, hc, hbefore⟩)
    · exact .inl ⟨_, _, h, hc, hothers⟩
    · exact .inr ⟨fun d hd => by rw [hmarked d hd]; decide, _, _, h, hc, hbefore⟩
  · rintro (⟨_, _, h, hc, hothers⟩ | ⟨hmarked, _, _, h, hc, hbefore⟩)
    · exact .marked h hc hothers
    · exact .plain h (fun d hd => Bool.not_eq_true _ ▸ hmarked d hd) hc hbefore

/-- **A creator is selected when it is the one to choose.** -/
theorem selectCreator_eq_ok_iff : s.selectCreator = .ok c ↔ s.Chooses c := by
  have hfactories : (s.creators.filter fun c => c.marked && c.isFactory) =
      (s.creators.filter Creator.marked).filter Creator.isFactory := by
    rw [List.filter_filter]
    exact List.filter_congr fun d _ => Bool.and_comm _ _
  have hconstructors : (s.creators.filter fun c => c.marked && !c.isFactory) =
      (s.creators.filter Creator.marked).filter fun c => !c.isFactory := by
    rw [List.filter_filter]
    exact List.filter_congr fun d _ => Bool.and_comm _ _
  rw [chooses_iff, selectCreator]
  simp only [hfactories, hconstructors]
  match s.creators.filter Creator.marked with
  | [] =>
    dsimp only [List.filter_nil]
    split
    · next d hd => simp [hd]
    · next hnone => simp [hnone]
  | [m] => cases hm : m.isFactory <;> simp [hm]
  | m :: m' :: rest =>
    -- two are marked: both of one kind, or one of each
    refine iff_of_false (fun h => ?_) (by simp)
    cases hm : m.isFactory <;> cases hm' : m'.isFactory <;>
      simp only [List.filter_cons, hm, hm', Bool.not_true, Bool.not_false, Bool.false_eq_true,
        ↓reduceIte] at h
    · split at h <;> simp_all
    · cases h
    · cases h
    · split at h <;> simp_all

/-! ## Types of one parameter and one attribute -/

/-- One parameter and one attribute have the type. -/
def Alone (s : Schema ρ) (c : Creator ρ) (t : DeclaredType) : Prop :=
  (c.parameters.countP fun p => p.type = t) = 1 ∧ (s.attributes.countP fun a => a.type = t) = 1

/-- Several parameters or several attributes have the type. -/
def Shared (s : Schema ρ) (c : Creator ρ) (t : DeclaredType) : Prop :=
  2 ≤ (c.parameters.countP fun p => p.type = t) ∨ 2 ≤ s.attributes.countP fun a => a.type = t

/-- **The parameters determine their attributes.**  Each has the type of an attribute; where the
type is shared, each parameter of it has the name of an attribute of the type, and no two have one
name. -/
structure Determined (s : Schema ρ) (c : Creator ρ) : Prop where
  declared : ∀ p ∈ c.parameters, ∃ a ∈ s.attributes, a.type = p.type
  named : ∀ p ∈ c.parameters, s.Shared c p.type →
    ∃ a ∈ s.attributes, a.type = p.type ∧ p.name = some a.name
  distinct : ∀ t, s.Shared c t →
    ((c.parameters.filter fun p => p.type = t).map Parameter.name).Nodup

theorem not_alone_iff (hp : p ∈ c.parameters) (ha : ∃ a ∈ s.attributes, a.type = p.type) :
    ¬ s.Alone c p.type ↔ s.Shared c p.type := by
  have hparameter : 0 < c.parameters.countP fun q => q.type = p.type :=
    List.countP_pos_iff.2 ⟨p, hp, decide_eq_true rfl⟩
  have hattribute : 0 < s.attributes.countP fun a => a.type = p.type := by
    obtain ⟨a, ha, htype⟩ := ha
    exact List.countP_pos_iff.2 ⟨a, ha, decide_eq_true htype⟩
  rw [Alone, Shared]
  omega

theorem Shared.not_alone (h : s.Shared c t) : ¬ s.Alone c t := by
  rw [Shared] at h
  rw [Alone]
  omega

/-! ## Identities -/

theorem map_descriptors (s : Schema ρ) :
    (s.descriptors.map fun d => (d.name, d.type)) = s.attributes.map fun a => (a.name, a.type) := by
  conv_rhs => rw [← s.map_fst_described, List.map_map]
  rw [descriptors, List.map_map]
  refine List.map_congr_left fun e he => ?_
  obtain ⟨-, hname, htype⟩ := mem_described (a := e.1) (d := e.2) he
  exact Prod.ext hname htype

theorem countP_descriptors (s : Schema ρ) (t : DeclaredType) :
    (s.descriptors.countP fun d => d.type = t) = s.attributes.countP fun a => a.type = t := by
  have h := congrArg (List.countP fun e : String × DeclaredType => e.2 = t) s.map_descriptors
  rwa [List.countP_map, List.countP_map] at h

/-- **No two identities share a name.** -/
theorem names_descriptors_nodup (s : Schema ρ) : (s.descriptors.map Descriptor.name).Nodup := by
  have h := congrArg (List.map Prod.fst) s.map_descriptors
  rw [List.map_map, List.map_map] at h
  have hattributes : (s.attributes.map Attribute.name).Nodup :=
    List.pairwise_map.2 (s.pairwise_attributes.imp fun h => h.1)
  exact (show s.descriptors.map Descriptor.name = s.attributes.map Attribute.name from h) ▸
    hattributes

theorem exists_attribute (hd : d ∈ s.descriptors) :
    ∃ a, s.attributes[d.index]? = some a ∧ a.name = d.name ∧ a.type = d.type := by
  obtain ⟨a, ha, hdesc⟩ := mem_descriptors hd
  exact ⟨a, ha, by rw [hdesc]; rfl, by rw [hdesc]; rfl⟩

theorem exists_descriptor {a : Attribute ρ} (ha : a ∈ s.attributes) :
    ∃ d ∈ s.descriptors, d.name = a.name ∧ d.type = a.type := by
  have h : (a.name, a.type) ∈ s.descriptors.map fun d => (d.name, d.type) :=
    s.map_descriptors ▸ List.mem_map.2 ⟨a, ha, rfl⟩
  obtain ⟨d, hd, heq⟩ := List.mem_map.1 h
  exact ⟨d, hd, Prod.mk.inj heq⟩

/-- Identities are the same when their positions are. -/
theorem eq_of_index_eq {e : Descriptor} (hd : d ∈ s.descriptors) (he : e ∈ s.descriptors)
    (h : d.index = e.index) : d = e := by
  obtain ⟨a, ha, hdesc⟩ := mem_descriptors hd
  obtain ⟨b, hb, hdesc'⟩ := mem_descriptors he
  obtain rfl := Option.some.inj (ha.symm.trans (h ▸ hb))
  rw [hdesc, hdesc', h]

theorem eq_of_name_eq {e : Descriptor} (hd : d ∈ s.descriptors) (he : e ∈ s.descriptors)
    (h : d.name = e.name) : d = e :=
  List.inj_on_of_nodup_map s.names_descriptors_nodup hd he h

/-! ## The attribute of a parameter -/

/-- **What a parameter takes:** an attribute of its type, the only one if the type is not shared,
and else the one of its name. -/
structure Takes (s : Schema ρ) (c : Creator ρ) (p : Parameter) (d : Descriptor)
    (mode : BindingMode) : Prop where
  source : d ∈ s.descriptors
  type : d.type = p.type
  mode_iff : mode = .byType ↔ s.Alone c p.type
  named : ¬ s.Alone c p.type → p.name = some d.name

/-- A list with one element that satisfies a test. -/
theorem filter_eq_singleton {α : Type} {l : List α} {f : α → Bool} {a : α} (ha : a ∈ l)
    (hf : f a = true) (h : l.countP f = 1) : l.filter f = [a] := by
  obtain ⟨b, hb⟩ := List.length_eq_one_iff.1 (List.countP_eq_length_filter.symm.trans h)
  have hmem : a ∈ l.filter f := List.mem_filter.2 ⟨ha, hf⟩
  rw [hb] at hmem ⊢
  rw [List.mem_singleton.1 hmem]

theorem countP_name_eq_one (hd : d ∈ s.descriptors) (htype : d.type = t) :
    ((s.descriptors.filter fun e => e.type = t).countP fun e => e.name = d.name) = 1 := by
  have hmem : d ∈ s.descriptors.filter fun e => e.type = t :=
    List.mem_filter.2 ⟨hd, decide_eq_true htype⟩
  refine Nat.le_antisymm ?_ (List.countP_pos_iff.2 ⟨d, hmem, decide_eq_true rfl⟩)
  calc ((s.descriptors.filter fun e => e.type = t).countP fun e => e.name = d.name)
    _ ≤ s.descriptors.countP fun e => e.name = d.name := List.filter_sublist.countP_le
    _ = (s.descriptors.map Descriptor.name).count d.name := by
      rw [List.count, List.countP_map]
      rfl
    _ ≤ 1 := List.nodup_iff_count_le_one.1 s.names_descriptors_nodup d.name

/-- **A parameter has an attribute when there is one to take.** -/
theorem parameterSource_eq_ok_iff {i : Nat} :
    s.parameterSource c p i = .ok (d, mode) ↔ s.Takes c p d mode := by
  have hsame : ∀ e, e ∈ s.descriptors.filter (fun e => e.type = p.type) ↔
      e ∈ s.descriptors ∧ e.type = p.type := fun e => by
    rw [List.mem_filter, decide_eq_true_eq]
  have halone : s.Alone c p.type ↔
      (c.parameters.filter fun q => q.type = p.type).length = 1 ∧
        (s.descriptors.filter fun e => e.type = p.type).length = 1 := by
    rw [Alone, ← s.countP_descriptors, List.countP_eq_length_filter, List.countP_eq_length_filter]
  rw [parameterSource]
  split
  · next hnone =>
    constructor
    · intro h
      cases h
    · intro h
      exact absurd (hnone ▸ (hsame d).2 ⟨h.source, h.type⟩) List.not_mem_nil
  · next e q he hq =>
    have hboth : s.Alone c p.type := halone.2 ⟨by rw [hq]; rfl, by rw [he]; rfl⟩
    constructor
    · intro h
      obtain ⟨rfl, rfl⟩ := Prod.mk.inj (Except.ok.inj h)
      obtain ⟨hmem, htype⟩ := (hsame e).1 (he ▸ List.mem_singleton_self e)
      exact ⟨hmem, htype, iff_of_true rfl hboth, fun h => absurd hboth h⟩
    · intro h
      have hmem := (hsame d).2 ⟨h.source, h.type⟩
      rw [he] at hmem
      rw [List.mem_singleton.1 hmem, h.mode_iff.2 hboth]
  · next hnil hnot =>
    have hshared : ¬ s.Alone c p.type := fun h => by
      obtain ⟨hq, he⟩ := halone.1 h
      obtain ⟨q, hq⟩ := List.length_eq_one_iff.1 hq
      obtain ⟨e, he⟩ := List.length_eq_one_iff.1 he
      exact hnot e q he hq
    split
    · next hname =>
      constructor
      · intro h
        cases h
      · intro h
        cases hname.symm.trans (h.named hshared)
    · next n hname =>
      have hone : s.Takes c p d mode →
          ((s.descriptors.filter fun e => e.type = p.type).filter fun e => e.name = n) = [d] := by
        intro h
        obtain rfl := Option.some.inj (hname.symm.trans (h.named hshared))
        exact filter_eq_singleton ((hsame d).2 ⟨h.source, h.type⟩) (decide_eq_true rfl)
          (countP_name_eq_one h.source h.type)
      split
      · next e he =>
        constructor
        · intro h
          obtain ⟨rfl, rfl⟩ := Prod.mk.inj (Except.ok.inj h)
          obtain ⟨hmem, hn⟩ := List.mem_filter.1 (he ▸ List.mem_singleton_self e)
          obtain ⟨hmem, htype⟩ := (hsame e).1 hmem
          exact ⟨hmem, htype, iff_of_false (by decide) hshared,
            fun _ => hname.trans (congrArg some (of_decide_eq_true hn).symm)⟩
        · intro h
          obtain rfl := List.head_eq_of_cons_eq (he.symm.trans (hone h))
          cases mode with
          | byType => exact absurd (h.mode_iff.1 rfl) hshared
          | byName => rfl
      · next hnone =>
        constructor
        · intro h
          cases h
        · exact fun h => absurd (hone h) (hnone d)

/-! ## All parameters -/

section Bindings

variable (h : List.Forall₂ (s.Binds c) c.parameters.zipIdx bindings)
include h

theorem map_parameter_index : (bindings.map fun b => (b.parameter, b.index)) =
    c.parameters.zipIdx := by
  have hsame := map_eq_map_of_forall₂ (f := id) (g := fun b => (b.parameter, b.index)) h
    fun e b he => by rw [he.parameter, he.index]; rfl
  exact hsame.symm.trans (List.map_id _)

theorem map_parameter : bindings.map ParameterBinding.parameter = c.parameters := by
  have hfst := congrArg (List.map Prod.fst) (map_parameter_index h)
  rw [List.map_map, List.zipIdx_map_fst] at hfst
  exact hfst

theorem takes_of_mem {b : ParameterBinding} (hb : b ∈ bindings) :
    s.Takes c b.parameter b.source b.mode := by
  obtain ⟨e, -, he⟩ := exists_of_forall₂ h hb
  exact parameterSource_eq_ok_iff.1 (he.parameter ▸ he.source)

end Bindings

/-- Two parameters of one type share it. -/
theorem shared_of_sublist {q : Parameter} (h : [p, q].Sublist c.parameters)
    (ht : p.type = q.type) : s.Shared c p.type := by
  refine .inl ?_
  calc 2
    _ = [p, q].countP (fun r => r.type = p.type) := by simp [ht]
    _ ≤ c.parameters.countP (fun r => r.type = p.type) := h.countP_le

/-- **The names of parameters of a shared type are distinct** when any two parameters of one type
have different names. -/
theorem distinct_iff :
    (∀ t, s.Shared c t → ((c.parameters.filter fun p => p.type = t).map Parameter.name).Nodup) ↔
      c.parameters.Pairwise fun p q => p.type = q.type → p.name ≠ q.name := by
  constructor
  · refine fun h => List.pairwise_iff_forall_sublist.2 fun {p q} hsub ht => ?_
    have hnodup := h p.type (shared_of_sublist hsub ht)
    have hfilter := hsub.filter fun r => r.type = p.type
    rw [List.filter_eq_self.2 (by simp [ht])] at hfilter
    exact List.pairwise_iff_forall_sublist.1 (List.pairwise_map.1 hnodup) hfilter
  · intro h t _
    refine List.pairwise_map.2 ((h.filter _).imp_of_mem fun {p q} hp hq hne => hne ?_)
    rw [of_decide_eq_true (List.mem_filter.1 hp).2, of_decide_eq_true (List.mem_filter.1 hq).2]

/-- **No attribute is bound twice** when parameters of one type have different names: two of them
share the type, and so are bound by name. -/
theorem nodup_sources_iff (h : List.Forall₂ (s.Binds c) c.parameters.zipIdx bindings) :
    (bindings.map fun b => b.source.index).Nodup ↔
      c.parameters.Pairwise fun p q => p.type = q.type → p.name ≠ q.name := by
  have hparameters := map_parameter h
  rw [List.Nodup, List.pairwise_map, ← hparameters, List.pairwise_map,
    List.pairwise_iff_forall_sublist, List.pairwise_iff_forall_sublist]
  refine forall₂_congr fun b b' => forall_congr' fun hsub => ?_
  have hb := takes_of_mem h (hsub.subset List.mem_cons_self)
  have hb' := takes_of_mem h (hsub.subset (List.mem_cons_of_mem _ List.mem_cons_self))
  have hpair : [b.parameter, b'.parameter].Sublist c.parameters :=
    hparameters ▸ hsub.map ParameterBinding.parameter
  rw [Ne, not_iff_comm]
  constructor
  · intro hne
    obtain ⟨htype, hname⟩ := Classical.not_imp.1 hne
    have hshared : s.Shared c b.parameter.type := shared_of_sublist hpair htype
    have hname' := hb'.named (htype ▸ hshared.not_alone)
    rw [← not_not.1 hname, hb.named hshared.not_alone] at hname'
    rw [eq_of_name_eq hb.source hb'.source (Option.some.inj hname')]
  · intro heq hne
    have hsource := eq_of_index_eq hb.source hb'.source heq
    have htype : b.parameter.type = b'.parameter.type := by
      rw [← hb.type, ← hb'.type, hsource]
    have hshared : s.Shared c b.parameter.type := shared_of_sublist hpair htype
    refine hne htype ?_
    rw [hb.named hshared.not_alone, hb'.named (htype ▸ hshared.not_alone), hsource]

/-- **Every parameter takes an attribute** when they are determined. -/
theorem Determined.exists_takes (h : s.Determined c) (hp : p ∈ c.parameters) :
    ∃ d mode, s.Takes c p d mode := by
  by_cases halone : s.Alone c p.type
  · obtain ⟨a, ha, htype⟩ := h.declared p hp
    obtain ⟨d, hd, -, hd'⟩ := exists_descriptor ha
    exact ⟨d, .byType, hd, hd'.trans htype, iff_of_true rfl halone, fun hn => absurd halone hn⟩
  · obtain ⟨a, ha, htype, hname⟩ := h.named p hp ((not_alone_iff hp (h.declared p hp)).1 halone)
    obtain ⟨d, hd, hname', hd'⟩ := exists_descriptor ha
    exact ⟨d, .byName, hd, hd'.trans htype, iff_of_false nofun halone,
      fun _ => hname.trans (congrArg some hname'.symm)⟩

/-- **All parameters are bound when they determine their attributes.** -/
theorem exists_bindings_iff :
    (∃ bindings, s.bindParameters c [] c.parameters.zipIdx = .ok bindings) ↔ s.Determined c := by
  constructor
  · rintro ⟨bindings, hbind⟩
    obtain ⟨h, hnodup, -⟩ := bindParameters_eq_ok_iff.1 hbind
    have htakes : ∀ p ∈ c.parameters, ∃ d mode, s.Takes c p d mode := fun p hp => by
      obtain ⟨b, hb, rfl⟩ := List.mem_map.1 (map_parameter h ▸ hp)
      exact ⟨_, _, takes_of_mem h hb⟩
    refine ⟨fun p hp => ?_, fun p hp hshared => ?_, distinct_iff.2 ((nodup_sources_iff h).1 hnodup)⟩
    · obtain ⟨d, mode, hd⟩ := htakes p hp
      obtain ⟨a, ha, -, htype⟩ := exists_attribute hd.source
      exact ⟨a, List.mem_of_getElem? ha, htype.trans hd.type⟩
    · obtain ⟨d, mode, hd⟩ := htakes p hp
      obtain ⟨a, ha, hname, htype⟩ := exists_attribute hd.source
      exact ⟨a, List.mem_of_getElem? ha, htype.trans hd.type, hname ▸ hd.named hshared.not_alone⟩
  · intro h
    have hbinds : ∀ e ∈ c.parameters.zipIdx, ∃ b, s.Binds c e b := fun e he => by
      obtain ⟨d, mode, hd⟩ := h.exists_takes (p := e.1)
        (List.zipIdx_map_fst 0 c.parameters ▸ List.mem_map.2 ⟨e, he, rfl⟩)
      exact ⟨⟨e.1, e.2, d, mode⟩, rfl, rfl, parameterSource_eq_ok_iff.2 hd⟩
    obtain ⟨bindings, hall⟩ := exists_forall₂ hbinds
    exact ⟨bindings, bindParameters_eq_ok_iff.2
      ⟨hall, (nodup_sources_iff hall).2 (distinct_iff.1 h.distinct), fun _ _ => List.not_mem_nil⟩⟩

/-! ## Creations -/

theorem creation_eq_ok_iff {r : Creation ρ} :
    s.creation = .ok r ↔ s.Chooses r.creator ∧
      s.bindParameters r.creator [] r.creator.parameters.zipIdx = .ok r.bindings := by
  rw [creation, bind_eq_ok_iff]
  constructor
  · rintro ⟨c, hc, h⟩
    obtain ⟨bindings, hbind, h⟩ := bind_eq_ok_iff.1 h
    obtain rfl := Except.ok.inj h
    exact ⟨selectCreator_eq_ok_iff.1 hc, hbind⟩
  · rintro ⟨hc, hbind⟩
    exact ⟨r.creator, selectCreator_eq_ok_iff.2 hc, bind_eq_ok_iff.2 ⟨r.bindings, hbind, rfl⟩⟩

/-- **A schema has a creation** when its creator is chosen and determined. -/
theorem exists_creation_iff :
    (∃ r, s.creation = .ok r ∧ r.creator = c) ↔ s.Chooses c ∧ s.Determined c := by
  rw [← exists_bindings_iff]
  constructor
  · rintro ⟨r, hr, rfl⟩
    exact (creation_eq_ok_iff.1 hr).imp_right fun h => ⟨r.bindings, h⟩
  · rintro ⟨hc, bindings, h⟩
    exact ⟨⟨c, bindings⟩, creation_eq_ok_iff.2 ⟨hc, h⟩, rfl⟩

/-! ## The order of attributes -/

/-- A schema with the same attributes in another order builds as well. -/
theorem exists_make_of_perm {attributes : List (Attribute ρ)} (h : attributes.Perm s.attributes) :
    ∃ s', make s.name s.fallback attributes s.creators = .ok s' ∧ s'.attributes = attributes ∧
      s'.creators = s.creators := by
  have hcheck : check s.name attributes = .ok () := by
    have hchecked := s.checked
    rw [check] at hchecked ⊢
    split at hchecked
    · cases hchecked
    · next hname =>
      obtain ⟨hall, hpair⟩ := checkAttributes_eq_ok_iff.1 hchecked
      rw [if_neg hname]
      refine checkAttributes_eq_ok_iff.2 ⟨fun a ha => hall a (h.mem_iff.1 ha), ?_⟩
      exact (h.pairwise_iff fun hne => ⟨hne.1.symm, hne.2.symm⟩).2 hpair
  refine ⟨⟨s.name, s.fallback, attributes, s.creators, hcheck⟩, ?_, rfl, rfl⟩
  rw [make]
  split
  · rfl
  · next f hf => cases hcheck.symm.trans hf

theorem Chooses.of_creators_eq (h : s.Chooses c) (hcreators : s'.creators = s.creators) :
    s'.Chooses c := by
  rw [chooses_iff] at h ⊢
  rwa [hcreators]

section Reordered

variable (h : s'.attributes.Perm s.attributes)
include h

theorem alone_perm : s'.Alone c t ↔ s.Alone c t := by
  rw [Alone, Alone, h.countP_eq]

theorem shared_perm : s'.Shared c t ↔ s.Shared c t := by
  rw [Shared, Shared, h.countP_eq]

theorem Determined.perm (hd : s.Determined c) : s'.Determined c where
  declared p hp := by
    obtain ⟨a, ha, htype⟩ := hd.declared p hp
    exact ⟨a, h.mem_iff.2 ha, htype⟩
  named p hp hshared := by
    obtain ⟨a, ha, hname⟩ := hd.named p hp ((shared_perm h).1 hshared)
    exact ⟨a, h.mem_iff.2 ha, hname⟩
  distinct t hshared := hd.distinct t ((shared_perm h).1 hshared)

/-- **A parameter takes the attribute of one name** in either order. -/
theorem Takes.name_eq {d' : Descriptor} {mode' : BindingMode} (hd' : s'.Takes c p d' mode')
    (hd : s.Takes c p d mode) : d'.name = d.name := by
  by_cases halone : s.Alone c p.type
  · obtain ⟨a, ha, hname, htype⟩ := exists_attribute hd.source
    obtain ⟨a', ha', hname', htype'⟩ := exists_attribute hd'.source
    have hone := filter_eq_singleton (List.mem_of_getElem? ha)
      (decide_eq_true (htype.trans hd.type)) halone.2
    have hone' := filter_eq_singleton (h.mem_iff.1 (List.mem_of_getElem? ha'))
      (decide_eq_true (htype'.trans hd'.type)) halone.2
    rw [← hname, ← hname', List.head_eq_of_cons_eq (hone'.symm.trans hone)]
  · have hname := hd.named halone
    rw [hd'.named fun halone' => halone ((alone_perm h).1 halone')] at hname
    exact Option.some.inj hname

end Reordered

/-- **The names of a creation do not depend on the order of the attributes.** -/
theorem exists_creation_of_perm {r : Creation ρ} (hr : s.creation = .ok r)
    (h : s'.attributes.Perm s.attributes) (hcreators : s'.creators = s.creators) :
    ∃ r', s'.creation = .ok r' ∧ r'.creator = r.creator ∧ r'.names = r.names := by
  obtain ⟨hchooses, hdetermined⟩ := exists_creation_iff.1 ⟨r, hr, rfl⟩
  obtain ⟨⟨c, bindings⟩, hr', rfl⟩ := exists_creation_iff.2
    ⟨hchooses.of_creators_eq hcreators, hdetermined.perm h⟩
  refine ⟨_, hr', rfl, ?_⟩
  obtain ⟨hbinds, -, -⟩ := bindParameters_eq_ok_iff.1 (creation_eq_ok_iff.1 hr).2
  obtain ⟨hbinds', -, -⟩ := bindParameters_eq_ok_iff.1 (creation_eq_ok_iff.1 hr').2
  refine map_eq_map_of_common hbinds' hbinds fun e b' b hb' hb => ?_
  rw [hb.parameter, hb'.parameter, Takes.name_eq h (parameterSource_eq_ok_iff.1 hb'.source)
    (parameterSource_eq_ok_iff.1 hb.source)]

/-- **Creators and their attributes are determined.**  A schema has a creation exactly when a
creator is chosen and its parameters determine their attributes.  Then each parameter in order is
bound to an attribute of its type, by type when no other parameter or attribute has it, no attribute
is bound twice, and the same names are bound whatever the order of the attributes. -/
theorem creation_determined (s : Schema ρ) :
    (∀ c, (∃ r, s.creation = .ok r ∧ r.creator = c) ↔ s.Chooses c ∧ s.Determined c) ∧
      ∀ r, s.creation = .ok r →
        (r.bindings.map fun b => (b.parameter, b.index)) = r.creator.parameters.zipIdx ∧
        (∀ b ∈ r.bindings,
          (∃ a, s.attributes[b.source.index]? = some a ∧ a.name = b.source.name ∧
            a.type = b.parameter.type) ∧
          (b.mode = .byType ↔ s.Alone r.creator b.parameter.type)) ∧
        (r.bindings.map fun b => b.source.index).Nodup ∧
        ∀ attributes, attributes.Perm s.attributes →
          ∃ s' r', make s.name s.fallback attributes s.creators = .ok s' ∧
            s'.creation = .ok r' ∧ r'.creator = r.creator ∧ r'.names = r.names := by
  refine ⟨fun c => exists_creation_iff, fun r hr => ?_⟩
  obtain ⟨hbinds, hnodup, -⟩ := bindParameters_eq_ok_iff.1 (creation_eq_ok_iff.1 hr).2
  refine ⟨map_parameter_index hbinds, fun b hb => ?_, hnodup, fun attributes hperm => ?_⟩
  · have htakes := takes_of_mem hbinds hb
    obtain ⟨a, ha, hname, htype⟩ := exists_attribute htakes.source
    exact ⟨⟨a, ha, hname, htype.trans htakes.type⟩, htakes.mode_iff⟩
  · obtain ⟨s', hmake, hattributes, hcreators⟩ := exists_make_of_perm hperm
    obtain ⟨r', hr', hcreator, hnames⟩ := exists_creation_of_perm hr (hattributes ▸ hperm) hcreators
    exact ⟨s', r', hmake, hr', hcreator, hnames⟩

/-- Ranges with two bounds of one type, made by a factory that takes the upper one first. -/
def ranges : Schema Unit where
  name := "Range"
  fallback := none
  attributes :=
    [{ name := "low", type := .scalar (.signed .w32) },
      { name := "high", type := .scalar (.signed .w32) },
      { name := "label", type := .scalar .string }]
  creators :=
    [.constant "new" (),
      { name := "of", isFactory := true, marked := true, run := fun _ => .ok ()
        parameters :=
          [⟨some "high", .scalar (.signed .w32), true⟩, ⟨none, .scalar .string, false⟩,
            ⟨some "low", .scalar (.signed .w32), true⟩] }]
  checked := by decide

/-- Its bounds are told apart by their names, in either order. -/
theorem creation_determined_ranges :
    ∃ r, ranges.creation = .ok r ∧ r.names.map Prod.snd = ["high", "label", "low"] ∧
      ∃ s' r', make "Range" none ranges.attributes.reverse ranges.creators = .ok s' ∧
        s'.creation = .ok r' ∧ r'.names = r.names := by
  refine ⟨_, rfl, rfl, ?_⟩
  obtain ⟨-, -, -, hreorder⟩ := (creation_determined ranges).2 _ rfl
  obtain ⟨s', r', hmake, hr', -, hnames⟩ := hreorder _ (List.reverse_perm _)
  exact ⟨s', r', hmake, hr', hnames⟩

end Schema

end RecordSheet
