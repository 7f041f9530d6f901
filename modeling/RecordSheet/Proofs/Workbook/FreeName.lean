import Mathlib.Order.Bounds.Defs
import RecordSheet.Proofs.Workbook.SheetName

/-!
# Proofs/Workbook/FreeName — names that no other worksheet has

A name is given as it is when it is free, and else with the least number that makes it free
(`SheetName.FirstFree`).  Each name given is the one name that is taken then, so the names given one
after another differ from each other and from those taken before, in any case of their letters
(`SheetName.perm_names_uniques`).
-/

namespace RecordSheet.SheetName

open scoped List

variable {taken : Scope Unit} {name : String}

/-- The numbers from 2 on whose variants are free. -/
def FreeNumbers (taken : Scope Unit) (name : String) : Set Nat :=
  { n | 2 ≤ n ∧ Text.lower (variant name n) ∉ taken.names }

/-- **The name is the first free one for a text,** and the only one that is taken now and was not
before. -/
structure FirstFree (taken : Scope Unit) (name given : String) (taken' : Scope Unit) : Prop where
  itself : Text.lower name ∉ taken.names → given = name
  numbered : Text.lower name ∈ taken.names → ∃ n, given = variant name n ∧
    IsLeast (FreeNumbers taken name) n ∧ n ≤ taken.names.length + 2
  fresh : Text.lower given ∉ taken.names
  perm : taken'.names.Perm (Text.lower given :: taken.names)
  /-- A variant that is too long has a number past 64 bits, and as many names are taken. -/
  length_le : taken.names.length + 2 < 10 ^ 29 → given.toList.length ≤ maxLength

/-- Gives a name to each of several texts in turn. -/
def uniques (taken : Scope Unit) : List String → List String × Scope Unit
  | [] => ([], taken)
  | name :: names =>
    let first := unique taken name
    let rest := uniques first.2 names
    (first.1 :: rest.1, rest.2)

/-- **The name given is the one name that is taken then,** beside those taken before. -/
theorem perm_names_unique (taken : Scope Unit) (name : String) :
    (unique taken name).2.names ~ Text.lower (unique taken name).1 :: taken.names := by
  obtain ⟨hfresh, htake⟩ := unique_fresh taken name
  rw [htake]
  exact Scope.perm_names_insert hfresh ()

/-- **A text of at most 31 characters gets the first free name.** -/
theorem firstFree_unique (h : name.toList.length ≤ maxLength) (taken : Scope Unit) :
    FirstFree taken name (unique taken name).1 (unique taken name).2 := by
  have hfresh := (unique_fresh taken name).1
  have hperm := perm_names_unique taken name
  have hsize : taken.names.length = taken.entries.length := List.length_map _
  obtain ⟨hfree, hunique⟩ | ⟨htaken, n, hle, hn, hunique, hfree, hfirst⟩ := unique_cases taken name
  · have hout := isTaken_eq_false_iff.1 hfree
    refine ⟨fun _ => ?_, fun hin => absurd hin hout, hfresh, hperm, fun _ => ?_⟩
    · rw [hunique]
    · rw [hunique]
      exact h
  · have hleast : IsLeast (FreeNumbers taken name) n := by
      refine ⟨⟨hle, isTaken_eq_false_iff.1 hfree⟩, fun m hm => ?_⟩
      by_contra hlt
      exact hm.2 (isTaken_iff.1 (hfirst m hm.1 (Nat.not_le.1 hlt)))
    refine ⟨fun hout => absurd (isTaken_iff.1 htaken) hout, fun _ => ⟨n, ?_, hleast, hsize ▸ hn⟩,
      hfresh, hperm, fun hbound => ?_⟩
    · rw [hunique]
    · rw [hunique]
      exact length_variant_le name (by omega)

/-- **A run adds the names that it gives,** and no others. -/
theorem perm_names_uniques (taken : Scope Unit) (names : List String) :
    (uniques taken names).2.names ~ (uniques taken names).1.map Text.lower ++ taken.names := by
  induction names generalizing taken with
  | nil => exact .refl _
  | cons name names ih =>
    calc (uniques taken (name :: names)).2.names
      _ ~ (uniques (unique taken name).2 names).1.map Text.lower ++ (unique taken name).2.names :=
        ih (unique taken name).2
      _ ~ (uniques (unique taken name).2 names).1.map Text.lower ++
          Text.lower (unique taken name).1 :: taken.names :=
        (perm_names_unique taken name).append_left _
      _ ~ (uniques taken (name :: names)).1.map Text.lower ++ taken.names := List.perm_middle

/-- **Names are made unique.**  A text of at most 31 characters is given as it is when it is free,
and else as its variant with the least free number, which is at most two more than there are names
taken; the name given was free, and is the only one added to those taken.  So names given one after
another all differ, in any case of their letters. -/
theorem firstFree_and_nodup (h : name.toList.length ≤ maxLength) (taken : Scope Unit) :
    FirstFree taken name (unique taken name).1 (unique taken name).2 ∧
      ∀ names, ((uniques taken names).1.map Text.lower).Nodup := by
  refine ⟨firstFree_unique h taken, fun names => ?_⟩
  have hnodup := (perm_names_uniques taken names).nodup_iff.1 (Scope.names_nodup _)
  exact (List.nodup_append.1 hnodup).1

/-- A name of 31 characters that is taken and is its own second variant. -/
def secondName : String := "yyyyyyyyyyyyyyyyyyyyyyyyyyyy__2"

/-- Its first free number is the greatest it may be.  Later on a name in capital letters is renamed,
as the one in small letters was given before. -/
theorem firstFree_and_nodup_second :
    let taken := take .empty secondName
    let given := (uniques taken [secondName, "Notes", "NOTES"]).1
    secondName.toList.length ≤ maxLength ∧
      FirstFree taken secondName (unique taken secondName).1 (unique taken secondName).2 ∧
      given = ["yyyyyyyyyyyyyyyyyyyyyyyyyyyy__3", "Notes", "NOTES__2"] ∧
      (given.map Text.lower).Nodup := by
  intro taken given
  have h : secondName.toList.length ≤ maxLength := by decide
  obtain ⟨hfirst, hnodup⟩ := firstFree_and_nodup h taken
  exact ⟨h, hfirst, by decide +kernel, hnodup _⟩

end RecordSheet.SheetName
