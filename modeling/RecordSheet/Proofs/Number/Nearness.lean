import RecordSheet.Proofs.Number.Denotation
import RecordSheet.Proofs.Number.Rounding

/-!
# Proofs/Number/Nearness — how near a rounded number is

The mantissa of a rounded quotient is at most a half away from it, so the number is at most half a
unit of its last place away.  Where the mantissa fills the precision this is a small part of the
number itself, and elsewhere half of the least unit there is (`near_of_ofRatio`).  A decimal number
is rounded that way also where its size alone decides (`near_of_ofDecimal`).  Conversely a decimal
number that a still smaller part sets apart from a whole one is rounded to it (`whole?_of_near`).
-/

namespace RecordSheet.Number

variable {num den m : Nat} {e : Int} {s t : Bool} {f : Format}

/-! ## The mantissa -/

/-- The neighbour that is taken is at most a half away. -/
theorem abs_sub_roundHalfEven_le (hden : 0 < den) (num : Nat) :
    |(num : ℚ) / den - roundHalfEven num den| ≤ 1 / 2 := by
  have hden' : (0 : ℚ) < den := Nat.cast_pos.2 hden
  have hsplit := Nat.div_add_mod num den
  have hrest := Nat.mod_lt num hden
  have hbounds : 2 * num ≤ 2 * (den * roundHalfEven num den) + den ∧
      2 * (den * roundHalfEven num den) ≤ 2 * num + den := by
    simp only [roundHalfEven]
    split_ifs <;> (try rw [Nat.mul_succ]) <;> omega
  have hlow : 2 * (num : ℚ) ≤ 2 * (den * roundHalfEven num den) + den := by exact_mod_cast hbounds.1
  have hhigh : 2 * (den * roundHalfEven num den : ℚ) ≤ 2 * num + den := by exact_mod_cast hbounds.2
  rw [abs_le, div_sub' hden'.ne', le_div_iff₀ hden', div_le_iff₀ hden']
  constructor <;> linarith

namespace Binary

/-- The quotient of which the mantissa is the rounded one. -/
theorem scaled_quotient (num den : Nat) (e : Int) :
    ((num * 2 ^ (-e).toNat : Nat) : ℚ) / (den * 2 ^ e.toNat : Nat) = num / den / 2 ^ e := by
  have hscale : (2 : ℚ) ^ (-e).toNat ≠ 0 := pow_ne_zero _ two_ne_zero
  push_cast
  rw [pow_toNat two_ne_zero e, ← mul_assoc, mul_div_mul_right _ _ hscale, div_div]

/-- **The mantissa is at most half a unit away.** -/
theorem abs_sub_mantissaOf_le (f : Format) (num : Nat) (hden : 0 < den) :
    |(num : ℚ) / den - mantissaOf f num den * 2 ^ exponentOf f num den| ≤
      2 ^ (exponentOf f num den - 1) := by
  have hunit : (0 : ℚ) < 2 ^ exponentOf f num den := zpow_pos two_pos _
  have hround := abs_sub_roundHalfEven_le
    (Nat.mul_pos hden (Nat.two_pow_pos (exponentOf f num den).toNat))
    (num * 2 ^ (-exponentOf f num den).toNat)
  rw [scaled_quotient] at hround
  calc |(num : ℚ) / den - mantissaOf f num den * 2 ^ exponentOf f num den|
      = |(num : ℚ) / den / 2 ^ exponentOf f num den - mantissaOf f num den| *
          2 ^ exponentOf f num den := by
        rw [← abs_of_pos hunit, ← abs_mul, sub_mul, abs_of_pos hunit, div_mul_cancel₀ _ hunit.ne']
    _ ≤ 1 / 2 * 2 ^ exponentOf f num den := by gcongr; exact hround
    _ = 2 ^ (exponentOf f num den - 1) := by
        rw [zpow_sub_one₀ two_ne_zero, mul_comm, one_div]

/-! ## Rounded numbers -/

/-- **A rounded quotient is near.** -/
theorem near_of_ofRatio (hnum : num ≠ 0) (hden : 0 < den) (hf : 0 < f.precision)
    (h : ofRatio f s num den = .finite t m e) :
    t = s ∧ |(num : ℚ) / den - m * 2 ^ e| ≤
      max ((m : ℚ) * 2 ^ e / 2 ^ f.precision) (2 ^ (f.least - 1)) := by
  obtain ⟨rfl, hvalue⟩ := eq_mantissaOf_of_ofRatio hnum hf h
  refine ⟨rfl, ?_⟩
  rw [hvalue]
  refine (abs_sub_mantissaOf_le f num hden).trans (le_max_iff.2 ?_)
  obtain hfull | hleast := precision_le_mantissaOf hnum hden f
  · left
    have hfull : (2 : ℚ) ^ (f.precision - 1) ≤ mantissaOf f num den := by exact_mod_cast hfull
    have hscale : (0 : ℚ) < 2 ^ f.precision := pow_pos two_pos _
    rw [le_div_iff₀ hscale]
    calc (2 : ℚ) ^ (exponentOf f num den - 1) * 2 ^ f.precision
        = 2 ^ (f.precision - 1) * 2 ^ exponentOf f num den := by
          rw [← zpow_natCast, ← zpow_natCast, ← zpow_add₀ two_ne_zero, ← zpow_add₀ two_ne_zero]
          congr 1
          omega
      _ ≤ mantissaOf f num den * 2 ^ exponentOf f num den := by gcongr
  · right
    rw [hleast]

/-- A coefficient and an exponent that leave less than half of the least unit. -/
theorem mul_zpow_le_of_small {c : Nat} {k b : Int} (hc : c ≠ 0) (hk : k ≤ 0)
    (h : Nat.log2 c + 1 + 3 * k < b) : (c : ℚ) * 10 ^ k ≤ 2 ^ b := by
  have hten : (10 : ℚ) ^ k ≤ 2 ^ (3 * k) := by
    obtain ⟨j, rfl⟩ := Int.exists_eq_neg_ofNat hk
    rw [zpow_mul, zpow_neg, zpow_neg, zpow_natCast, zpow_natCast]
    gcongr
    norm_num
  calc (c : ℚ) * 10 ^ k
      ≤ 2 ^ ((Nat.log2 c : Int) + 1) * 2 ^ (3 * k) := by
        gcongr
        exact (lt_log_pow hc).le
    _ = 2 ^ ((Nat.log2 c : Int) + 1 + 3 * k) := (zpow_add₀ two_ne_zero _ _).symm
    _ ≤ 2 ^ b := zpow_le_zpow_right₀ one_le_two h.le

/-- **A decimal number is rounded to a near one,** also where its size alone tells that it is zero.
-/
theorem near_of_ofDecimal {c : Nat} {k : Int} (hf : 0 < f.precision) (hleast : f.least ≤ 0)
    (h : ofDecimal f s c k = .finite t m e) :
    t = s ∧ |(c : ℚ) * 10 ^ k - m * 2 ^ e| ≤
      max ((m : ℚ) * 2 ^ e / 2 ^ f.precision) (2 ^ (f.least - 1)) := by
  have hunit : (0 : ℚ) < 2 ^ (f.least - 1) := zpow_pos two_pos _
  rw [ofDecimal] at h
  split_ifs at h with hzero hlarge hsmall
  · cases h
    refine ⟨rfl, le_max_of_le_right ?_⟩
    rw [hzero, Nat.cast_zero, zero_mul, zero_mul, sub_zero, abs_zero]
    exact hunit.le
  · cases h
    refine ⟨rfl, le_max_of_le_right ?_⟩
    have hnonneg : (0 : ℚ) ≤ (c : ℚ) * 10 ^ k := by positivity
    rw [Nat.cast_zero, zero_mul, sub_zero, abs_of_nonneg hnonneg]
    exact mul_zpow_le_of_small hzero (by omega) hsmall
  · have hpow : 0 < 10 ^ (-k).toNat := Nat.pow_pos (by decide)
    have hnum : c * 10 ^ k.toNat ≠ 0 := Nat.mul_ne_zero hzero (Nat.pow_pos (by decide)).ne'
    have hvalue : ((c * 10 ^ k.toNat : Nat) : ℚ) / (10 ^ (-k).toNat : Nat) = c * 10 ^ k :=
      quotient_pow_eq (b := 10) (by decide) c k
    have hnear := near_of_ofRatio hnum hpow hf h
    rwa [hvalue] at hnear

/-- **A whole number that a decimal number is rounded to is near.** -/
theorem near_of_whole? {d : Decimal} {n : Int} (hf : 0 < f.precision) (hleast : f.least ≤ 0)
    (h : (ofDecimal f d.negative d.coefficient d.exponent).whole? = some n) :
    |d.toRat - n| ≤ max (|(n : ℚ)| / 2 ^ f.precision) (2 ^ (f.least - 1)) := by
  cases hx : ofDecimal f d.negative d.coefficient d.exponent with
  | nan | infinite _ =>
    rw [hx] at h
    cases h
  | finite s m e =>
    rw [hx] at h
    obtain ⟨rfl, hnear⟩ := near_of_ofDecimal hf hleast hx
    have habs : |(n : ℚ)| = m * 2 ^ e := by
      rw [← natAbs_of_whole? h, Nat.cast_natAbs, Int.cast_abs]
    rw [habs, cast_of_whole? h, Decimal.toRat, ← mul_sub, abs_mul]
    cases d.negative <;> simpa using hnear

/-! ## Numbers near a whole one -/

/-- **The mantissa is the only whole number less than a half away.** -/
theorem mantissaOf_eq (hden : 0 < den) {b : Nat}
    (h : |(num : ℚ) / den - b * 2 ^ exponentOf f num den| < 2 ^ (exponentOf f num den - 1)) :
    mantissaOf f num den = b := by
  have hunit : (0 : ℚ) < 2 ^ exponentOf f num den := zpow_pos two_pos _
  have hhalf : (2 : ℚ) ^ (exponentOf f num den - 1) = 2 ^ exponentOf f num den / 2 :=
    zpow_sub_one₀ two_ne_zero _
  have hround := abs_sub_mantissaOf_le f num hden
  rw [hhalf, abs_lt] at h
  rw [hhalf, abs_le] at hround
  have hdist : |(mantissaOf f num den : ℚ) - b| < 1 := by
    refine lt_of_mul_lt_mul_right ?_ hunit.le
    calc |(mantissaOf f num den : ℚ) - b| * 2 ^ exponentOf f num den
        = |((mantissaOf f num den : ℚ) - b) * 2 ^ exponentOf f num den| := by
          rw [abs_mul, abs_of_pos hunit]
      _ < 1 * 2 ^ exponentOf f num den := by
          rw [sub_mul, one_mul, abs_lt]
          constructor <;> linarith
  have hint : |(mantissaOf f num den - b : Int)| < 1 := by exact_mod_cast hdist
  have hzero := Int.abs_lt_one_iff.1 hint
  omega

/-- A number without a fraction is whole. -/
theorem whole?_of_eq {a : Nat} (h : (m : ℚ) * 2 ^ e = a) :
    (finite s m e).whole? = some (if s then -(a : Int) else a) := by
  have hscale : ((2 ^ (-e).toNat : Nat) : ℚ) ≠ 0 := Nat.cast_ne_zero.2 (Nat.two_pow_pos _).ne'
  rw [← quotient_eq, div_eq_iff hscale] at h
  have hvalue : m * 2 ^ e.toNat = a * 2 ^ (-e).toNat := by exact_mod_cast h
  have hparts : m % 2 ^ (-e).toNat = 0 ∧ m / 2 ^ (-e).toNat * 2 ^ e.toNat = a := by
    rcases le_total 0 e with he | he
    · have hnone : (-e).toNat = 0 := by omega
      rw [hnone, pow_zero, mul_one] at hvalue
      rw [hnone, pow_zero, Nat.mod_one, Nat.div_one]
      exact ⟨rfl, hvalue⟩
    · have hnone : e.toNat = 0 := by omega
      rw [hnone, pow_zero, mul_one] at hvalue
      rw [hnone, pow_zero, mul_one, hvalue]
      exact ⟨Nat.mul_mod_left .., Nat.mul_div_cancel _ (Nat.two_pow_pos _)⟩
  rw [whole?]
  dsimp only [Nat.pow_eq]
  rw [if_pos hparts.1, hparts.2]

/-- A number that may differ from a positive whole number in a small part only. -/
theorem bounds_of_near {a : Nat} {q : ℚ} (ha : 0 < a) (hlt : a < 2 ^ f.precision)
    (hnear : |q - a| ≤ a / 2 ^ (f.precision + 2)) :
    a ≤ q + 1 / 4 ∧ 1 / 2 < q ∧ q < 2 ^ f.precision := by
  have hlow : (1 : ℚ) ≤ a := by exact_mod_cast ha
  have hhigh : (a : ℚ) + 1 ≤ 2 ^ f.precision := by exact_mod_cast hlt
  have hpart : (a : ℚ) / 2 ^ (f.precision + 2) ≤ 1 / 4 := by
    rw [div_le_iff₀ (by positivity), pow_add]
    linarith
  have hdist := abs_le.1 (hnear.trans hpart)
  refine ⟨?_, ?_, ?_⟩ <;> linarith

section Near

variable (hf : 0 < f.precision) (hleast : f.least ≤ 0) (hgreatest : 0 < f.greatest) {a : Nat}
  (ha : 0 < a) (hlt : a < 2 ^ f.precision)
include hf hleast hgreatest ha hlt

/-- **A quotient near a whole number of the format is rounded to it.** -/
theorem ofRatio_of_near (hden : 0 < den)
    (hnear : |(num : ℚ) / den - a| ≤ a / 2 ^ (f.precision + 2)) :
    ∃ m e, ofRatio f s num den = .finite s m e ∧ (m : ℚ) * 2 ^ e = a := by
  obtain ⟨hfrom, hhalf, hprecision⟩ := bounds_of_near ha hlt hnear
  have hpos : (0 : ℚ) < num / den := one_half_pos.trans hhalf
  have hnum : num ≠ 0 := by
    rintro rfl
    rw [Nat.cast_zero, zero_div] at hpos
    exact hpos.false
  have hlog := floorLog2_eq_log hnum hden
  have hbelow : floorLog2 num den < f.precision := by
    rw [hlog, ← Int.lt_zpow_iff_log_lt one_lt_two hpos, Nat.cast_two, zpow_natCast]
    exact hprecision
  have habove : (num : ℚ) / den < 2 ^ (floorLog2 num den + 1) := by
    rw [hlog]
    exact_mod_cast Int.lt_zpow_succ_log_self one_lt_two ((num : ℚ) / den)
  have hfull : floorLog2 num den - (f.precision - 1 : Nat) ≤ exponentOf f num den :=
    le_max_right _ _
  have hexp : exponentOf f num den ≤ 0 := by
    rw [exponentOf]
    omega
  -- The whole number is a number of units of the mantissa, and closer than half of one.
  have hunits : ((a * 2 ^ (-exponentOf f num den).toNat : Nat) : ℚ) * 2 ^ exponentOf f num den =
      a := by
    push_cast
    rw [mul_assoc, ← zpow_natCast, ← zpow_add₀ two_ne_zero, Int.toNat_of_nonneg (by omega),
      neg_add_cancel, zpow_zero, mul_one]
  have hcloser : (a : ℚ) / 2 ^ (f.precision + 2) < 2 ^ (exponentOf f num den - 1) := by
    rw [div_lt_iff₀ (by positivity)]
    calc (a : ℚ) < 2 ^ (floorLog2 num den + 1) * 2 := by linarith
      _ = 2 ^ (floorLog2 num den - f.precision) * 2 ^ (f.precision + 2) := by
          rw [← zpow_natCast, ← zpow_add₀ two_ne_zero, ← zpow_add_one₀ two_ne_zero]
          congr 1
          push_cast
          ring
      _ ≤ 2 ^ (exponentOf f num den - 1) * 2 ^ (f.precision + 2) := by
          refine mul_le_mul_of_nonneg_right (zpow_le_zpow_right₀ one_le_two ?_) (by positivity)
          omega
  have hmantissa := mantissaOf_eq (f := f) hden (hunits.symm ▸ hnear.trans_lt hcloser)
  have hvalue : ∀ {m e}, ofRatio f s num den = .finite s m e → (m : ℚ) * 2 ^ e = a := fun h => by
    rw [(eq_mantissaOf_of_ofRatio hnum hf h).2, hmantissa, hunits]
  obtain ⟨-, h⟩ | ⟨h, -, -⟩ | ⟨h, -, -⟩ := ofRatio_cases f s hnum den
  · have hlarge : f.greatest < exponentOf f num den + 1 :=
      h.elim And.right (·.trans (Int.lt_succ _))
    omega
  · exact ⟨_, _, h, hvalue h⟩
  · exact ⟨_, _, h, hvalue h⟩

/-- **So is a decimal number:** it is neither so large nor so small that its size alone decides. -/
theorem ofDecimal_of_near {c : Nat} {k : Int}
    (hnear : |(c : ℚ) * 10 ^ k - a| ≤ a / 2 ^ (f.precision + 2)) :
    ∃ m e, ofDecimal f s c k = .finite s m e ∧ (m : ℚ) * 2 ^ e = a := by
  obtain ⟨-, hhalf, hprecision⟩ := bounds_of_near ha hlt hnear
  have hzero : c ≠ 0 := by
    rintro rfl
    rw [Nat.cast_zero, zero_mul] at hhalf
    exact absurd hhalf (by norm_num)
  have hlarge : ¬ f.greatest + f.precision < k := fun h => by
    refine absurd hprecision (not_lt.2 ?_)
    calc (2 : ℚ) ^ f.precision
        = 2 ^ (f.precision : Int) := (zpow_natCast _ _).symm
      _ ≤ 2 ^ k := zpow_le_zpow_right₀ one_le_two (by omega)
      _ ≤ 10 ^ k := zpow_le_zpow_left₀ (by omega) two_pos.le (by norm_num)
      _ ≤ c * 10 ^ k :=
        le_mul_of_one_le_left (by positivity) (by exact_mod_cast Nat.pos_of_ne_zero hzero)
  have hsmall : ¬ Nat.log2 c + 1 + 3 * k < f.least - 1 := fun h => by
    refine absurd hhalf (not_lt.2 ?_)
    calc (c : ℚ) * 10 ^ k
        ≤ 2 ^ (f.least - 1) := mul_zpow_le_of_small hzero (by omega) h
      _ ≤ 2 ^ (-1 : Int) := zpow_le_zpow_right₀ one_le_two (by omega)
      _ = 1 / 2 := by norm_num
  have hvalue : ((c * 10 ^ k.toNat : Nat) : ℚ) / (10 ^ (-k).toNat : Nat) = c * 10 ^ k :=
    quotient_pow_eq (b := 10) (by decide) c k
  rw [ofDecimal, if_neg hzero, if_neg hlarge, if_neg hsmall]
  exact ofRatio_of_near hf hleast hgreatest ha hlt (Nat.pow_pos (by decide)) (hvalue.symm ▸ hnear)

end Near

/-- A number that is nearer to a whole number than zero has the sign of it. -/
theorem sign_of_near {d : Decimal} {n : Int} (h : |d.toRat - n| < |(n : ℚ)|) :
    n = if d.negative then -(n.natAbs : Int) else n.natAbs := by
  have hsize : (0 : ℚ) ≤ d.coefficient * 10 ^ d.exponent := by positivity
  rw [Decimal.toRat] at h
  cases hsign : d.negative with
  | false =>
    rw [hsign, if_neg Bool.false_ne_true, one_mul] at h
    have hn : ¬ n < 0 := fun hn => by
      have hn : (n : ℚ) < 0 := by exact_mod_cast hn
      rw [abs_of_neg hn, abs_of_pos (by linarith)] at h
      linarith
    rw [if_neg Bool.false_ne_true]
    omega
  | true =>
    rw [hsign, if_pos rfl, neg_one_mul] at h
    have hn : ¬ 0 < n := fun hn => by
      have hn : (0 : ℚ) < n := by exact_mod_cast hn
      rw [abs_of_pos hn, abs_of_neg (by linarith)] at h
      linarith
    rw [if_pos rfl]
    omega

/-- **A decimal number near a whole number of the format** is rounded to it. -/
theorem whole?_of_near {d : Decimal} {n : Int} (hf : 0 < f.precision) (hleast : f.least ≤ 0)
    (hgreatest : 0 < f.greatest) (hlt : n.natAbs < 2 ^ f.precision)
    (hnear : |d.toRat - n| ≤ |(n : ℚ)| / 2 ^ (f.precision + 2)) :
    (ofDecimal f d.negative d.coefficient d.exponent).whole? = some n := by
  rcases eq_or_ne n 0 with rfl | hn
  · -- Nothing but zero is near zero.
    have hzero : d.coefficient = 0 := by
      rw [Int.cast_zero, sub_zero, abs_zero, zero_div, abs_nonpos_iff, Decimal.toRat] at hnear
      cases hsign : d.negative <;> simpa [hsign, zpow_ne_zero] using hnear
    rw [ofDecimal, if_pos hzero, zero, whole?_of_eq (a := 0) (by rw [Nat.cast_zero, zero_mul])]
    cases d.negative <;> rfl
  · have hcast : |(n : ℚ)| = n.natAbs := by rw [Nat.cast_natAbs, Int.cast_abs]
    have hpos : (0 : ℚ) < |(n : ℚ)| := abs_pos.2 (Int.cast_ne_zero.2 hn)
    have hsign : n = if d.negative then -(n.natAbs : Int) else n.natAbs :=
      sign_of_near (hnear.trans_lt (div_lt_self hpos (one_lt_pow₀ one_lt_two (by omega))))
    have hnear' : |(d.coefficient : ℚ) * 10 ^ d.exponent - n.natAbs| ≤
        n.natAbs / 2 ^ (f.precision + 2) := by
      have hvalue : (n : ℚ) = (if d.negative then -1 else 1) * n.natAbs :=
        (congrArg Int.cast hsign).trans (cast_sign _ _)
      rw [hcast, Decimal.toRat, hvalue, ← mul_sub, abs_mul] at hnear
      cases hd : d.negative <;> simpa [hd] using hnear
    obtain ⟨m, e, hrounded, hvalue⟩ := ofDecimal_of_near (s := d.negative) hf hleast hgreatest
      (Int.natAbs_pos.2 hn) hlt hnear'
    rw [hrounded, whole?_of_eq hvalue, ← hsign]

end Binary

end RecordSheet.Number
