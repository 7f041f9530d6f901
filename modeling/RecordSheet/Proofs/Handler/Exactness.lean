import RecordSheet.Proofs.Handler.Integers
import RecordSheet.Proofs.Number.Nearness

/-!
# Proofs/Handler/Exactness — the numbers whose texts are read as a whole number

A text that is no numeral is rounded to a floating-point number first, and it is this number that
has to be whole.  So what is read is in the range of the type, and a text of a whole number is read
as no other number; but rounding may have taken a fraction away, and then the whole number next to
it is read (`decode_integer_near`).
-/

namespace RecordSheet

open Number (Denotes)
open Outcome

namespace Handler

variable {h : Handler} {text : String} {w : Width} {n k : Int} {q : ℚ}

/-- **The numbers that a whole number may be read for:** itself, and next to it those with a
fraction that rounding takes away. -/
def WholeNear (n : Int) (q : ℚ) : Prop :=
  q = n ∨ (∀ k : Int, q ≠ k) ∧ n.natAbs < wholeLimit ∧
    |q - n| ≤ max (|(n : ℚ)| / 2 ^ 53) (2 ^ (-1075 : Int))

/-- Below the limit, two whole numbers are not that near. -/
theorem eq_of_near (hlimit : n.natAbs < wholeLimit)
    (h : |(k : ℚ) - n| ≤ max (|(n : ℚ)| / 2 ^ 53) (2 ^ (-1075 : Int))) : k = n := by
  have hlimit : |(n : ℚ)| < 2 ^ 53 := by
    have hlt : n.natAbs < 2 ^ 53 := hlimit.trans (by decide)
    rw [← Int.cast_abs, ← Nat.cast_natAbs]
    exact_mod_cast hlt
  have hdist : |(k : ℚ) - n| < 1 :=
    h.trans_lt (max_lt ((div_lt_one (by positivity)).2 hlimit)
      (zpow_lt_one_of_neg₀ one_lt_two (by decide)))
  have hdist : |k - n| < 1 := by exact_mod_cast hdist
  have hzero := Int.abs_lt_one_iff.1 hdist
  omega

/-! ## Whole floating-point numbers -/

theorem wholeNear_of_wholeFloat? (h : wholeFloat? text = some n) :
    ∃ q, Denotes text.toList q ∧ WholeNear n q := by
  obtain ⟨x, hx, hfloat⟩ := Option.bind_eq_some_iff.1 h
  obtain ⟨m, hm, hsome⟩ := Option.bind_eq_some_iff.1 hfloat
  obtain ⟨t, ht, rfl⟩ := Option.map_eq_some_iff.1 hx
  split at hsome
  · next hlimit =>
    obtain rfl := Option.some.inj hsome
    cases t with
    | nan | infinite _ => cases hm
    | exact d =>
      refine ⟨d.toRat, ⟨d, ht, rfl⟩, ?_⟩
      have hnear := Number.Binary.near_of_whole? (by decide) (by decide) hm
      by_cases hwhole : ∃ k : Int, d.toRat = k
      · obtain ⟨k, hk⟩ := hwhole
        rw [hk] at hnear ⊢
        exact .inl (congrArg Int.cast (eq_of_near hlimit hnear))
      · exact .inr ⟨not_exists.1 hwhole, hlimit, hnear⟩
  · cases hsome

/-- **A number near enough** to a whole one below the limit. -/
theorem wholeFloat?_of_near (hq : Denotes text.toList q) (hlimit : n.natAbs < wholeLimit)
    (hnear : |q - n| ≤ |(n : ℚ)| / 2 ^ 55) : wholeFloat? text = some n := by
  obtain ⟨d, hd, rfl⟩ := hq
  have hwhole : (Number.Binary.ofDecimal .double d.negative d.coefficient d.exponent).whole? =
      some n :=
    Number.Binary.whole?_of_near (by decide) (by decide) (by decide) (hlimit.trans (by decide))
      hnear
  have hread : Number.Binary.ofText? .double text =
      some (.ofDecimal .double d.negative d.coefficient d.exponent) := by
    rw [Number.Binary.ofText?, hd]
    rfl
  simp only [wholeFloat?, hread, Option.bind_eq_bind, Option.bind_some, hwhole, if_pos hlimit]

/-! ## Numerals and other texts -/

theorem denotes_of_signed {low high : Int}
    (h : (Number.int? text.toList).bind (Number.within? low high) = some n) :
    Denotes text.toList n := by
  obtain ⟨m, hm, hwithin⟩ := Option.bind_eq_some_iff.1 h
  obtain ⟨-, rfl⟩ := Number.within?_eq_some_iff.1 hwithin
  exact Number.denotes_of_int? hm

theorem denotes_of_unsigned {low high : Int}
    (h : ((Number.plusNat? text.toList).bind fun m => Number.within? low high m) = some n) :
    Denotes text.toList n := by
  obtain ⟨m, hm, hwithin⟩ := Option.bind_eq_some_iff.1 h
  obtain ⟨-, rfl⟩ := Number.within?_eq_some_iff.1 hwithin
  exact Number.denotes_of_plusNat? hm

theorem wholeNear_of_signedNumber? (h : signedNumber? text = some n) :
    ∃ q, Denotes text.toList q ∧ WholeNear n q := by
  rw [signedNumber?] at h
  split at h
  · next m hm =>
    obtain rfl := Option.some.inj h
    exact ⟨m, denotes_of_signed hm, .inl rfl⟩
  · exact wholeNear_of_wholeFloat? h

theorem wholeNear_of_unsignedNumber? (h : unsignedNumber? text = some n) :
    ∃ q, Denotes text.toList q ∧ WholeNear n q := by
  rw [unsignedNumber?] at h
  split at h
  · next m hm =>
    obtain rfl := Option.some.inj h
    exact ⟨m, denotes_of_unsigned hm, .inl rfl⟩
  · obtain ⟨k, hk, hsome⟩ := Option.bind_eq_some_iff.1 h
    split at hsome
    · obtain rfl := Option.some.inj hsome
      exact wholeNear_of_wholeFloat? hk
    · cases hsome

section Near

variable (hq : Denotes text.toList q) (hlimit : n.natAbs < wholeLimit)
  (hnear : |q - n| ≤ |(n : ℚ)| / 2 ^ 55)
include hq hlimit hnear

/-- A text of a whole number is near to that number only. -/
theorem eq_of_denotes (hk : Denotes text.toList k) : k = n := by
  obtain rfl := hq.unique hk
  have hscale : |(n : ℚ)| / 2 ^ 55 ≤ |(n : ℚ)| / 2 ^ 53 := by gcongr <;> norm_num
  exact eq_of_near hlimit (hnear.trans (hscale.trans (le_max_left _ _)))

theorem signedNumber?_of_near : signedNumber? text = some n := by
  rw [signedNumber?]
  split
  · next m hm => rw [eq_of_denotes hq hlimit hnear (denotes_of_signed hm)]
  · exact wholeFloat?_of_near hq hlimit hnear

theorem unsignedNumber?_of_near (hn : 0 ≤ n) : unsignedNumber? text = some n := by
  rw [unsignedNumber?]
  split
  · next m hm => rw [eq_of_denotes hq hlimit hnear (denotes_of_unsigned hm)]
  · rw [wholeFloat?_of_near hq hlimit hnear, Option.bind_some, if_pos hn]

end Near

/-! ## What the handlers read -/

/-- **The texts that are read as whole numbers.**  What is read is in the range of the type, and the
text denotes it, or a number with a fraction within half a unit of the last place of it.  All texts
of numbers that are a little nearer to a number below the limit are read as that number. -/
theorem decode_integer_near {t : ScalarType} {low high : Int} (ht : t.bounds? = some (low, high))
    (hhandler : Registry.builtin.get? t = some h) (text : String) (x : HandlerContext) :
    (∀ u, h.decode text x = .ok u → ∃ n q, u.integer? = some n ∧ (low ≤ n ∧ n ≤ high) ∧
        Denotes (Text.trim text).toList q ∧ WholeNear n q) ∧
      ∀ n q, (low ≤ n ∧ n ≤ high) → n.natAbs < wholeLimit → Denotes (Text.trim text).toList q →
        |q - n| ≤ |(n : ℚ)| / 2 ^ 55 → ∃ u, h.decode text x = .ok u ∧ u.integer? = some n := by
  cases t with
  | signed w =>
    obtain ⟨rfl, rfl⟩ := Prod.mk.inj (Option.some.inj ht)
    obtain rfl := Option.some.inj ((get?_builtin_signed w).symm.trans hhandler)
    simp only [signed, decode_ofScalar_eq_ok_iff, decodeSigned_eq_ok_iff]
    constructor
    · rintro u ⟨n, hn, hrange, rfl⟩
      obtain ⟨q, hq, hnear⟩ := wholeNear_of_signedNumber? hn
      exact ⟨n, q, congrArg some (w.toInt_ofInt hrange), hrange, hq, hnear⟩
    · intro n q hrange hlimit hq hnear
      exact ⟨_, ⟨n, signedNumber?_of_near hq hlimit hnear, hrange, rfl⟩,
        congrArg some (w.toInt_ofInt hrange)⟩
  | unsigned w =>
    obtain ⟨rfl, rfl⟩ := Prod.mk.inj (Option.some.inj ht)
    obtain rfl := Option.some.inj ((get?_builtin_unsigned w).symm.trans hhandler)
    simp only [unsigned, decode_ofScalar_eq_ok_iff, decodeUnsigned_eq_ok_iff]
    constructor
    · rintro u ⟨n, hn, hrange, rfl⟩
      obtain ⟨q, hq, hnear⟩ := wholeNear_of_unsignedNumber? hn
      exact ⟨n, q, congrArg some (w.toNat_ofNat hrange), hrange, hq, hnear⟩
    · intro n q hrange hlimit hq hnear
      exact ⟨_, ⟨n, unsignedNumber?_of_near hq hlimit hnear hrange.1, hrange, rfl⟩,
        congrArg some (w.toNat_ofNat hrange)⟩
  | _ => cases ht

/-- A whole number with a point and a zero behind it. -/
theorem decode_integer_near_twelve :
    ∃ u, (signed .w8).decode " 12.0 " (attributeOf (.signed .w8)) = .ok u ∧ u.integer? = some 12 :=
  (decode_integer_near rfl (get?_builtin_signed .w8) " 12.0 " (attributeOf (.signed .w8))).2 12 12
    (by decide) (by decide) ⟨⟨false, 120, -1⟩, rfl, by norm_num [Number.Decimal.toRat]⟩
      (by norm_num)

/-- **A fraction is rounded away:** the text of a number between two whole ones is read as the upper
one. -/
theorem exists_fraction_rounded :
    ∃ (h : Handler) (text : String) (q : ℚ), Registry.builtin.get? (.signed .w64) = some h ∧
      Denotes (Text.trim text).toList q ∧ (∀ k : Int, q ≠ k) ∧
      h.decode text (attributeOf (.signed .w64)) = .ok (.int 4503599627370498) := by
  refine ⟨signed .w64, "4503599627370497.5", 9007199254740995 / 2, get?_builtin_signed .w64,
    ⟨⟨false, 45035996273704975, -1⟩, rfl, by norm_num [Number.Decimal.toRat]⟩, fun k hk => ?_, rfl⟩
  have hdouble : (9007199254740995 : ℚ) = (2 * k : Int) := by
    rw [div_eq_iff two_ne_zero] at hk
    push_cast
    linarith
  have hdouble : (9007199254740995 : Int) = 2 * k := by exact_mod_cast hdouble
  omega

end Handler

end RecordSheet
