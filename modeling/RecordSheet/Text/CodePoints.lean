/-!
# Text/CodePoints — sets of characters as ranges of code points

A set of characters is a list of inclusive ranges of code points, so the union of two sets is the
concatenation of their lists (`contains_append`).
-/

namespace RecordSheet.Text

/-- A set of characters: the inclusive ranges of their code points. -/
abbrev CodePoints := List (Nat × Nat)

namespace CodePoints

/-- Whether the character lies in one of the ranges. -/
def contains (s : CodePoints) (c : Char) : Bool :=
  s.any fun r => decide (r.1 ≤ c.toNat) && decide (c.toNat ≤ r.2)

@[simp] theorem contains_nil (c : Char) : contains [] c = false := rfl

/-- **The union of two sets is their concatenation.** -/
@[simp] theorem contains_append (s t : CodePoints) (c : Char) :
    contains (s ++ t) c = (contains s c || contains t c) := by
  simp [contains, List.any_append]

end CodePoints

end RecordSheet.Text
