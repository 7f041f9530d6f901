/-!
# Entries — values under keys in a list

A list of pairs holds values under keys; `List.lookup` finds the first entry of a key.  `put`
replaces that entry or adds one at the end, and changes what is found under its own key only
(`lookup_put`).  Where any entries are made one after the other, the last under a key is found
(`lookup_foldl`).
-/

namespace RecordSheet.Entries

variable {κ α : Type} [BEq κ] [LawfulBEq κ] [DecidableEq κ]

/-- **The first entry of a key is found,** whatever comes after it. -/
theorem lookup_cons (key : κ) (e : κ × α) (es : List (κ × α)) :
    (e :: es).lookup key = if key = e.1 then some e.2 else es.lookup key := by
  obtain ⟨k, a⟩ := e
  by_cases h : key = k
  · rw [h, List.lookup_cons_self, if_pos rfl]
  · rw [List.lookup_cons, beq_false_of_ne h, if_neg h]

/-- **Where no key occurs twice,** an entry is found under its key. -/
theorem lookup_eq_some_iff {es : List (κ × α)} (h : (es.map Prod.fst).Nodup) {key : κ} {a : α} :
    es.lookup key = some a ↔ (key, a) ∈ es := by
  induction es with
  | nil => simp
  | cons e es ih =>
    obtain ⟨hnotin, hes⟩ := List.nodup_cons.1 h
    rw [lookup_cons, List.mem_cons]
    by_cases hk : key = e.1
    · subst hk
      have hmem : (e.1, a) ∉ es := fun hm => hnotin (List.mem_map.2 ⟨_, hm, rfl⟩)
      simp [hmem, Prod.ext_iff, eq_comm]
    · have hne : (key, a) ≠ e := fun heq => hk (congrArg Prod.fst heq)
      rw [if_neg hk, ih hes, or_iff_right hne]

/-- The entries with a value under a key, instead of the first entry of the key if it has one. -/
def put {κ α : Type} [DecidableEq κ] (key : κ) (value : α) : List (κ × α) → List (κ × α)
  | [] => [(key, value)]
  | e :: es => if key = e.1 then (key, value) :: es else e :: put key value es

/-- **A value that was put is found under its key, and all others stay.** -/
theorem lookup_put (key : κ) (value : α) (other : κ) (es : List (κ × α)) :
    (put key value es).lookup other = if other = key then some value else es.lookup other := by
  induction es with
  | nil => simp [put, lookup_cons]
  | cons f fs ih =>
    rw [put]
    split
    · rename_i heq
      by_cases h : other = key <;> simp [lookup_cons, ← heq, h]
    · rename_i hne
      by_cases h : other = f.1
      · simp [lookup_cons, h, Ne.symm hne]
      · simp [lookup_cons, h, ih]

/-- **Of values entered one after the other** the last under a key is found, whatever is entered
into: `get` finds what `insert` enters under its own key, and all others stay. -/
theorem lookup_foldl {σ : Type} {get : σ → κ → Option α} {insert : σ → κ → α → σ}
    (h : ∀ s key value other,
      get (insert s key value) other = if other = key then some value else get s other)
    (es : List (κ × α)) (s : σ) (key : κ) :
    get (es.foldl (fun s e => insert s e.1 e.2) s) key =
      (es.reverse.lookup key).or (get s key) := by
  induction es generalizing s with
  | nil => rfl
  | cons e es ih =>
    rw [List.foldl_cons, ih, h, List.reverse_cons, List.lookup_append, lookup_cons, List.lookup_nil,
      Option.or_assoc]
    congr 1
    split <;> rfl

/-- **Putting a value adds at most its own key,** at the end. -/
theorem map_fst_put {κ α : Type} [DecidableEq κ] (key : κ) (value : α) (es : List (κ × α)) :
    (put key value es).map Prod.fst =
      if key ∈ es.map Prod.fst then es.map Prod.fst else es.map Prod.fst ++ [key] := by
  induction es with
  | nil => rfl
  | cons f fs ih =>
    rw [put]
    by_cases h : key = f.1
    · rw [if_pos h, List.map_cons, List.map_cons, if_pos (h ▸ List.mem_cons_self), h]
    · rw [if_neg h, List.map_cons, List.map_cons, ih]
      by_cases hmem : key ∈ fs.map Prod.fst
      · rw [if_pos hmem, if_pos (List.mem_cons_of_mem _ hmem)]
      · rw [if_neg hmem, if_neg (List.not_mem_cons_of_ne_of_not_mem h hmem), List.cons_append]

/-- **Under a new key** a value is added at the end. -/
theorem put_of_notMem {κ α : Type} [DecidableEq κ] {key : κ} {es : List (κ × α)}
    (h : key ∉ es.map Prod.fst) (value : α) : put key value es = es ++ [(key, value)] := by
  induction es with
  | nil => rfl
  | cons f fs ih =>
    rw [List.map_cons, List.mem_cons, not_or] at h
    rw [put, if_neg h.1, ih h.2, List.cons_append]

end RecordSheet.Entries
