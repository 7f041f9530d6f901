import RecordSheet.Mapping.Reader
import RecordSheet.Proofs.Outcome
import RecordSheet.Proofs.Scope

/-!
# Proofs/Mapping/Reader — the steps of a reader

A row keyed by headers is one keyed by names (`get?_rekey`).  An assignment keeps what its setter
keeps (`assignAll_preserves`), and only quotes the row (`assign_eq`).
-/

namespace RecordSheet

variable {ρ : Type}

namespace Reader

variable {r : Reader ρ} {row : Scope String}

/-! ## The parts of a reader -/

/-- **Every value has somewhere to go** when the check of the columns succeeds. -/
theorem checkAssignable_eq_ok_iff {record : String} {c : Creation ρ}
    {columns : List (ReadColumn ρ × Nat)} :
    checkAssignable record c columns = .ok () ↔
      ∀ e ∈ columns, c.isBound e.2 = true ∨ e.1.set.isSome := by
  have hcond : ∀ e : ReadColumn ρ × Nat, (!c.isBound e.2 && e.1.set.isNone) = true ↔
      ¬ (c.isBound e.2 = true ∨ e.1.set.isSome) := fun e => by
    cases c.isBound e.2 <;> cases e.1.set <;> simp
  induction columns with
  | nil => simp [checkAssignable]
  | cons e rest ih =>
    rw [List.forall_mem_cons, checkAssignable]
    split
    · rename_i h
      exact ⟨nofun, fun hall => absurd hall.1 ((hcond e).1 h)⟩
    · rename_i h
      exact ih.trans (and_iff_right (not_not.1 fun hno => h ((hcond e).2 hno))).symm

/-- A reader has the columns of its schema and the schema's creator, and a setter for every column
whose value the creator does not take. -/
theorem make_eq_ok {s : Schema ρ} {registry : Registry} {o : Options}
    (h : Reader.make s registry o = .ok r) :
    s.readColumns registry o = .ok r.columns ∧ r.options = o ∧ s.creation = .ok r.creation ∧
      ∀ e ∈ r.columns.zipIdx, r.creation.isBound e.2 = true ∨ e.1.set.isSome := by
  obtain ⟨-, -, h⟩ := Outcome.bind_eq_ok_iff.1 h
  obtain ⟨columns, hcolumns, h⟩ := Outcome.bind_eq_ok_iff.1 h
  obtain ⟨creation, hcreation, h⟩ := Outcome.bind_eq_ok_iff.1 h
  obtain ⟨_, hassign, h⟩ := Outcome.bind_eq_ok_iff.1 h
  obtain rfl := Except.ok.inj h
  exact ⟨hcolumns, rfl, hcreation, checkAssignable_eq_ok_iff.1 hassign⟩

/-- Every column of a reader whose creator takes nothing has a setter. -/
theorem isSome_set_of_unbound {s : Schema ρ} {registry : Registry} {o : Options}
    (hr : Reader.make s registry o = .ok r) (hb : r.creation.bindings = []) :
    ∀ c ∈ r.columns, c.set.isSome := by
  intro c hc
  obtain ⟨-, -, -, hassign⟩ := Reader.make_eq_ok hr
  obtain ⟨i, hi, rfl⟩ := List.getElem_of_mem hc
  have hmem := List.mk_mem_zipIdx_iff_getElem?.2 (List.getElem?_eq_getElem hi)
  rcases hassign _ hmem with hbound | hset
  · rw [Creation.isBound, hb] at hbound
    cases hbound
  · exact hset

/-! ## Rows keyed by headers -/

/-- A header belongs to the name of its column. -/
theorem get?_namesByHeader (hh : r.headers.Nodup) {header name : String} :
    r.namesByHeader.get? header = some name ↔
      ∃ c ∈ r.columns, c.plan.header = header ∧ c.plan.descriptor.name = name :=
  Scope.get?_ofList_map_eq_some_iff hh

/-- **A re-keyed row has under the name of a column what it had under its header,** and nothing
else. -/
theorem get?_rekey (hh : r.headers.Nodup)
    (hn : (r.columns.map fun c => c.plan.descriptor.name).Nodup) {name text : String} :
    (r.rekey row).get? name = some text ↔
      ∃ c ∈ r.columns, c.plan.descriptor.name = name ∧ row.get? c.plan.header = some text := by
  have hinj : ∀ g h name, r.namesByHeader.get? g = some name → r.namesByHeader.get? h = some name →
      g = h := by
    intro g h name hg hh'
    obtain ⟨c, hc, rfl, rfl⟩ := (get?_namesByHeader hh).1 hg
    obtain ⟨c', hc', rfl, heq⟩ := (get?_namesByHeader hh).1 hh'
    rw [List.inj_on_of_nodup_map hn hc hc' heq.symm]
  rw [rekey, Scope.get?_ofList_filterMap hinj]
  simp only [get?_namesByHeader hh]
  constructor
  · rintro ⟨header, ⟨c, hc, rfl, rfl⟩, hget⟩
    exact ⟨c, hc, rfl, hget⟩
  · rintro ⟨c, hc, rfl, hget⟩
    exact ⟨_, ⟨c, hc, rfl, rfl⟩, hget⟩

/-! ## Assigning values -/

/-- The record that an assignment makes, or what the setter objects to: the row has no part in it.
-/
def store (r : Reader ρ) (record : ρ) (column : ReadColumn ρ) (v : Value) (index : Nat) :
    Except String ρ :=
  if r.creation.isBound index then .ok record
  else
    match column.set with
    | none => .ok record
    | some set => set record v

/-- **The row is only quoted** by an assignment that fails. -/
theorem assign_eq (r : Reader ρ) (row : Scope String) (record : ρ) (column : ReadColumn ρ)
    (v : Value) (index : Nat) :
    r.assign row record column v index =
      (r.store record column v index).mapError
        (column.plan.failure (column.plan.cellText row)) := by
  rw [assign, store]
  split
  · rfl
  · cases column.set <;> rfl

theorem assign_eq_ok_iff {record y : ρ} {column : ReadColumn ρ} {v : Value} {index : Nat} :
    r.assign row record column v index = .ok y ↔ r.store record column v index = .ok y := by
  rw [assign_eq, Outcome.mapError_eq_ok_iff]

theorem assign_of_unbound (hb : r.creation.bindings = []) {column : ReadColumn ρ} {set : Setter ρ}
    (hset : column.set = some set) {record record' : ρ} {v : Value}
    (h : set record v = .ok record') (index : Nat) :
    r.assign row record column v index = .ok record' := by
  have hfree : r.creation.isBound index = false := by rw [Creation.isBound, hb, List.any_nil]
  rw [assign_eq_ok_iff, store, hfree, hset]
  exact h

/-- **What the setter of a column keeps,** an assignment keeps. -/
theorem assign_preserves {β : Type} {g : ρ → β} {column : ReadColumn ρ}
    (hg : ∀ set ∈ column.set, ∀ record v record', set record v = .ok record' →
      g record' = g record)
    {record y : ρ} {v : Value} {index : Nat} (h : r.assign row record column v index = .ok y) :
    g y = g record := by
  rw [assign_eq_ok_iff, store] at h
  split at h
  · rw [Except.ok.inj h]
  · split at h
    · rw [Except.ok.inj h]
    · rename_i set hset
      exact hg set hset record v y h

/-- **What all setters keep,** a run of assignments keeps. -/
theorem assignAll_preserves {β : Type} {g : ρ → β} {columns : List (ReadColumn ρ × Value)}
    (hg : ∀ e ∈ columns, ∀ set ∈ e.1.set, ∀ record v record', set record v = .ok record' →
      g record' = g record)
    {record y : ρ} {index : Nat} (h : r.assignAll row record index columns = .ok y) :
    g y = g record := by
  induction columns generalizing record index with
  | nil => rw [Except.ok.inj h]
  | cons e rest ih =>
    obtain ⟨next, hnext, hrest⟩ := Outcome.bind_eq_ok_iff.1 h
    rw [List.forall_mem_cons] at hg
    rw [ih hg.2 hrest, assign_preserves hg.1 hnext]

end Reader

end RecordSheet
