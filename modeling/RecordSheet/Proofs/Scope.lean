import Mathlib.Data.List.Nodup
import RecordSheet.Scope

/-!
# Proofs/Scope — scopes of distinct names

A scope of entries with distinct names holds exactly these entries (`get?_ofList_eq_some_iff`), and
renaming its names one to one changes nothing else (`get?_ofList_filterMap`).
-/

namespace RecordSheet.Scope

variable {α : Type}

theorem names_nodup (s : Scope α) : s.names.Nodup := by
  rw [names, List.nodup_iff_pairwise_ne, List.pairwise_map]
  refine s.sorted.imp fun {a b} hlt heq => ?_
  rw [heq] at hlt
  exact String.lt_irrefl _ hlt

/-- **A name has a value** exactly when they are an entry. -/
theorem get?_eq_some_iff (s : Scope α) {name : String} {value : α} :
    s.get? name = some value ↔ (name, value) ∈ s.entries :=
  Entries.lookup_eq_some_iff s.names_nodup

theorem mem_names_iff {s : Scope α} {name : String} :
    name ∈ s.names ↔ ∃ value, s.get? name = some value := by
  rw [names, List.mem_map]
  constructor
  · rintro ⟨⟨_, value⟩, he, rfl⟩
    exact ⟨value, s.get?_eq_some_iff.2 he⟩
  · rintro ⟨value, h⟩
    exact ⟨_, s.get?_eq_some_iff.1 h, rfl⟩

theorem mem_names_insert {s : Scope α} {name : String} {value : α} {other : String} :
    other ∈ (s.insert name value).names ↔ other = name ∨ other ∈ s.names := by
  simp only [mem_names_iff, get?_insert]
  split
  · next h => exact iff_of_true ⟨value, rfl⟩ (.inl h)
  · next h => rw [or_iff_right h]

/-- **A name that is new** is the only one added. -/
theorem perm_names_insert {s : Scope α} {name : String} (h : name ∉ s.names) (value : α) :
    (s.insert name value).names.Perm (name :: s.names) :=
  (List.perm_ext_iff_of_nodup (names_nodup _) (List.nodup_cons.2 ⟨h, s.names_nodup⟩)).2 fun _ =>
    mem_names_insert.trans List.mem_cons.symm

/-- **A changed scope** has the changed values under the same names. -/
theorem get?_map {β : Type} (f : α → β) (s : Scope α) (name : String) :
    (s.map f).get? name = (s.get? name).map f := by
  change (s.entries.map fun e => (e.1, f e.2)).lookup name = (s.entries.lookup name).map f
  induction s.entries with
  | nil => rfl
  | cons e es ih =>
    rw [List.map_cons, Entries.lookup_cons, Entries.lookup_cons, ih]
    split <;> rfl

/-- The entries inserted last come first. -/
theorem get?_foldl_insert (es : List (String × α)) (s : Scope α) (name : String) :
    (es.foldl (fun s e => s.insert e.1 e.2) s).get? name =
      (es.reverse.lookup name).or (s.get? name) :=
  Entries.lookup_foldl get?_insert es s name

/-- **The last entry of a name counts.** -/
theorem get?_ofList (es : List (String × α)) (name : String) :
    (ofList es).get? name = es.reverse.lookup name := by
  rw [ofList, get?_foldl_insert, get?_empty, Option.or_none]

theorem get?_ofList_eq_some_iff {es : List (String × α)} (h : (es.map Prod.fst).Nodup)
    {name : String} {value : α} : (ofList es).get? name = some value ↔ (name, value) ∈ es := by
  have hrev : (es.reverse.map Prod.fst).Nodup := by
    rw [List.map_reverse]
    exact List.nodup_reverse.2 h
  rw [get?_ofList, Entries.lookup_eq_some_iff hrev, List.mem_reverse]

/-- **A scope made of a list of things,** each under a name of its own. -/
theorem get?_ofList_map_eq_some_iff {β : Type} {xs : List β} {key : β → String} {val : β → α}
    (h : (xs.map key).Nodup) {name : String} {value : α} :
    (ofList (xs.map fun x => (key x, val x))).get? name = some value ↔
      ∃ x ∈ xs, key x = name ∧ val x = value := by
  have hkeys : (xs.map fun x => (key x, val x)).map Prod.fst = xs.map key := by
    rw [List.map_map]
    rfl
  rw [get?_ofList_eq_some_iff (hkeys ▸ h), List.mem_map]
  simp only [Prod.mk.injEq]

/-- **A scope renamed one to one** has under a new name what it had under the old one. -/
theorem get?_ofList_filterMap {f : String → Option String}
    (hf : ∀ m n name, f m = some name → f n = some name → m = n) (s : Scope α)
    {new : String} {value : α} :
    (ofList (s.entries.filterMap fun e => (f e.1).map fun name => (name, e.2))).get? new =
        some value ↔
      ∃ old, f old = some new ∧ s.get? old = some value := by
  have hkeys : ((s.entries.filterMap fun e => (f e.1).map fun name => (name, e.2)).map
      Prod.fst) = s.names.filterMap f := by
    simp [names, List.map_filterMap, List.filterMap_map, Function.comp_def]
  have hnodup : (s.names.filterMap f).Nodup := s.names_nodup.filterMap fun m n name hm hn =>
    hf m n name hm hn
  rw [get?_ofList_eq_some_iff (hkeys ▸ hnodup), List.mem_filterMap]
  constructor
  · rintro ⟨⟨old, v⟩, he, h⟩
    obtain ⟨name, hname, heq⟩ := Option.map_eq_some_iff.1 h
    obtain ⟨rfl, rfl⟩ := Prod.mk.inj heq
    exact ⟨old, hname, s.get?_eq_some_iff.2 he⟩
  · rintro ⟨old, hold, hget⟩
    exact ⟨(old, value), s.get?_eq_some_iff.1 hget, by rw [hold]; rfl⟩

end RecordSheet.Scope
