import RecordSheet.Number.Numeral

/-!
# Proofs/Number/Numeral — written numbers are read back

The decimal digits of a number are read as that number (`nat?_numeral`), also where a sign may stand
in front of them, as a digit is none (`plusNat?_numeral`, `int?_signed`).
-/

namespace RecordSheet.Number

theorem isDigit_of_mem_numeral {n : Nat} {c : Char} (h : c ∈ numeral n) : c.isDigit = true :=
  Nat.isDigit_of_mem_toDigits (by decide) (by decide) h

theorem numeral_ne_nil (n : Nat) : numeral n ≠ [] :=
  List.length_pos_iff.1 Nat.length_toDigits_pos

/-- A numeral is a digit and more. -/
theorem exists_numeral_eq_cons (n : Nat) : ∃ d ds, d.isDigit = true ∧ numeral n = d :: ds := by
  obtain ⟨d, ds, h⟩ := List.exists_cons_of_ne_nil (numeral_ne_nil n)
  exact ⟨d, ds, isDigit_of_mem_numeral (h ▸ List.mem_cons_self), h⟩

theorem nat?_numeral (n : Nat) : nat? (numeral n) = some n := by
  have hdigits : isNumeral (numeral n) = true := by
    rw [isNumeral, List.isEmpty_eq_false_iff.2 (numeral_ne_nil n), Bool.not_false, Bool.true_and,
      List.all_eq_true]
    exact fun c => isDigit_of_mem_numeral
  have hvalue : valueFrom 0 (numeral n) = n := Nat.ofDigitChars_ten_toDigits
  rw [nat?, if_pos hdigits, hvalue]

theorem plusNat?_numeral (n : Nat) : plusNat? (numeral n) = some n := by
  have hnat := nat?_numeral n
  obtain ⟨d, ds, hd, hn⟩ := exists_numeral_eq_cons n
  rw [hn] at hnat ⊢
  rw [plusNat?]
  · exact hnat
  · rintro _ ⟨⟩
    cases hd

/-- **A written whole number is read back.** -/
theorem int?_signed (n : Int) : int? (signed n) = some n := by
  rw [signed]
  split
  · next hn =>
    have hneg : -(n.natAbs : Int) = n := by omega
    rw [int?, nat?_numeral]
    exact congrArg some hneg
  · next hn =>
    have hplus := plusNat?_numeral n.natAbs
    obtain ⟨d, ds, hd, hnumeral⟩ := exists_numeral_eq_cons n.natAbs
    rw [hnumeral] at hplus ⊢
    rw [int?, hplus, Option.map_some]
    · exact congrArg some (Int.natAbs_of_nonneg (Int.not_lt.1 hn))
    · rintro _ ⟨⟩
      cases hd

theorem within?_eq_some_iff {low high n m : Int} :
    within? low high n = some m ↔ (low ≤ n ∧ n ≤ high) ∧ n = m := by
  rw [within?, Option.ite_none_right_eq_some, Option.some.injEq]

end RecordSheet.Number
