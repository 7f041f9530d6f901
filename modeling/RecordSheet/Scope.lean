import RecordSheet.Entries

/-!
# Scope — finite maps from names

A `Scope` maps names to values and lists its entries in the order of the names.  `insert` replaces
an entry of the same name (`get?_insert`), and `ofList` keeps the last entry of each name.
-/

namespace RecordSheet

/-- A finite map from names to values. -/
structure Scope (α : Type) where
  entries : List (String × α)
  sorted : entries.Pairwise fun a b => a.1 < b.1

namespace Scope

variable {α β : Type}

/-- The scope without entries. -/
def empty : Scope α :=
  ⟨[], .nil⟩

instance : Inhabited (Scope α) := ⟨empty⟩

/-- The value of a name, if the scope has it. -/
def get? (s : Scope α) (name : String) : Option α :=
  s.entries.lookup name

/-- The names of a scope, in order. -/
def names (s : Scope α) : List String :=
  s.entries.map Prod.fst

/-- Puts an entry at its place in a sorted list, instead of one of the same name. -/
def insertEntry (name : String) (value : α) : List (String × α) → List (String × α)
  | [] => [(name, value)]
  | e :: es =>
    if name < e.1 then (name, value) :: e :: es
    else if name = e.1 then (name, value) :: es
    else e :: insertEntry name value es

theorem mem_insertEntry {name : String} {value : α} {es : List (String × α)} {e : String × α}
    (h : e ∈ insertEntry name value es) : e = (name, value) ∨ e ∈ es := by
  induction es with
  | nil => simpa [insertEntry] using h
  | cons f fs ih =>
    rw [insertEntry] at h
    split at h
    · simpa using h
    · split at h
      · rcases List.mem_cons.1 h with h | h
        · exact .inl h
        · exact .inr (List.mem_cons_of_mem _ h)
      · rcases List.mem_cons.1 h with h | h
        · exact .inr (h ▸ List.mem_cons_self)
        · exact (ih h).imp_right (List.mem_cons_of_mem _)

theorem sorted_insertEntry (name : String) (value : α) {es : List (String × α)}
    (h : es.Pairwise fun a b => a.1 < b.1) :
    (insertEntry name value es).Pairwise fun a b => a.1 < b.1 := by
  induction es with
  | nil => simp [insertEntry]
  | cons f fs ih =>
    obtain ⟨hf, hfs⟩ := List.pairwise_cons.1 h
    rw [insertEntry]
    split
    · rename_i hlt
      refine List.pairwise_cons.2 ⟨fun e he => ?_, h⟩
      rcases List.mem_cons.1 he with rfl | he
      · exact hlt
      · exact String.lt_trans hlt (hf e he)
    · split
      · rename_i heq
        exact List.pairwise_cons.2 ⟨fun e he => heq ▸ hf e he, hfs⟩
      · rename_i hlt hne
        refine List.pairwise_cons.2 ⟨fun e he => ?_, ih hfs⟩
        rcases mem_insertEntry he with rfl | he
        · rcases String.le_total name f.1 with hle | hle
          · exact absurd (String.le_antisymm hle (String.not_lt.1 hlt)) hne
          · exact String.not_le.1 fun hle' => hne (String.le_antisymm hle' hle)
        · exact hf e he

/-- The scope with an entry, instead of one of the same name. -/
def insert (s : Scope α) (name : String) (value : α) : Scope α :=
  ⟨insertEntry name value s.entries, sorted_insertEntry name value s.sorted⟩

/-- The scope of a list of entries, of which the last of each name counts. -/
def ofList (es : List (String × α)) : Scope α :=
  es.foldl (fun s e => s.insert e.1 e.2) empty

/-- The scope with every value changed by `f`. -/
def map (f : α → β) (s : Scope α) : Scope β :=
  ⟨s.entries.map fun e => (e.1, f e.2), by
    rw [List.pairwise_map]
    exact s.sorted⟩

theorem lookup_insertEntry (name : String) (value : α) (other : String)
    (es : List (String × α)) :
    (insertEntry name value es).lookup other =
      if other = name then some value else es.lookup other := by
  induction es with
  | nil => simp [insertEntry, Entries.lookup_cons]
  | cons f fs ih =>
    rw [insertEntry]
    split
    · rw [Entries.lookup_cons]
    · split
      · rename_i heq
        by_cases h : other = name <;> simp [Entries.lookup_cons, ← heq, h]
      · rename_i hne
        by_cases h : other = f.1
        · simp [Entries.lookup_cons, h, Ne.symm hne]
        · simp [Entries.lookup_cons, h, ih]

/-- **An inserted entry is found under its name, and all others stay.** -/
theorem get?_insert (s : Scope α) (name : String) (value : α) (other : String) :
    (s.insert name value).get? other = if other = name then some value else s.get? other :=
  lookup_insertEntry name value other s.entries

@[simp] theorem get?_empty (name : String) : (empty : Scope α).get? name = none := rfl

end Scope

end RecordSheet
