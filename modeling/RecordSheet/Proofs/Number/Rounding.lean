import Mathlib.Algebra.Order.Field.Power
import Mathlib.Data.Int.Log
import Mathlib.Data.Rat.Floor
import RecordSheet.Number.Binary

/-!
# Proofs/Number/Rounding — what rounding to a format keeps

The exponent of a rounded number is read off the power of two below it (`floorLog2_eq_log`), so the
number that comes out is **canonical** — its mantissa fills the precision, or its exponent is the
least — and a number with a canonical form in the format is not changed (`ofRatio_of_canonical`).
The narrow format lies within the wide one, so a number of it comes back from there
(`convert_convert_single`).  Nor does rounding carry a number past a power of two (`le_of_ofRatio`).
-/

namespace RecordSheet.Number

variable {num den m a : Nat} {e k : Int} {s t : Bool} {f : Format}

/-! ## The quotient and its power of two -/

/-- A power as two natural ones, of which one is trivial. -/
theorem pow_toNat {b : ℚ} (hb : b ≠ 0) (e : Int) : b ^ e.toNat = b ^ e * b ^ (-e).toNat := by
  have hsplit : e = (e.toNat : Int) - ((-e).toNat : Int) := (Int.toNat_sub_toNat_neg e).symm
  conv_rhs => rw [hsplit, zpow_sub₀ hb, zpow_natCast, zpow_natCast]
  rw [Int.toNat_sub_toNat_neg, div_mul_cancel₀ _ (pow_ne_zero _ hb)]

theorem log_pow_le {n : Nat} (h : n ≠ 0) : (2 : ℚ) ^ (Nat.log2 n : Int) ≤ n := by
  rw [zpow_natCast]
  exact_mod_cast Nat.log2_self_le h

theorem lt_log_pow {n : Nat} (h : n ≠ 0) : (n : ℚ) < 2 ^ ((Nat.log2 n : Int) + 1) := by
  have hlt : n < 2 ^ (Nat.log2 n + 1) := (Nat.log2_lt h).1 (Nat.lt_succ_self _)
  exact_mod_cast hlt

theorem quotient_pos (hnum : num ≠ 0) (hden : 0 < den) : (0 : ℚ) < num / den :=
  div_pos (Nat.cast_pos.2 (Nat.pos_of_ne_zero hnum)) (Nat.cast_pos.2 hden)

/-- A multiple of a power of two, times the denominator, over the common natural scale. -/
theorem cast_mul_pow (a den : Nat) (e : Int) :
    ((a * (den * 2 ^ e.toNat) : Nat) : ℚ) = a * 2 ^ e * den * 2 ^ (-e).toNat := by
  push_cast
  rw [pow_toNat two_ne_zero e, ← mul_assoc (den : ℚ), ← mul_assoc (a : ℚ),
    mul_right_comm (a : ℚ) (2 ^ e), ← mul_assoc (a : ℚ)]

/-- A quotient and a multiple of a power of two, compared in natural numbers. -/
theorem mul_pow_le_iff (hden : 0 < den) (a : Nat) (e : Int) :
    a * (den * 2 ^ e.toNat) ≤ num * 2 ^ (-e).toNat ↔ (a : ℚ) * 2 ^ e ≤ num / den := by
  have hscale : (0 : ℚ) < 2 ^ (-e).toNat := pow_pos two_pos _
  rw [le_div_iff₀ (Nat.cast_pos.2 hden), ← mul_le_mul_iff_left₀ hscale, ← cast_mul_pow]
  exact_mod_cast Iff.rfl

theorem le_mul_pow_iff (hden : 0 < den) (a : Nat) (e : Int) :
    num * 2 ^ (-e).toNat ≤ a * (den * 2 ^ e.toNat) ↔ (num : ℚ) / den ≤ a * 2 ^ e := by
  have hscale : (0 : ℚ) < 2 ^ (-e).toNat := pow_pos two_pos _
  rw [div_le_iff₀ (Nat.cast_pos.2 hden), ← mul_le_mul_iff_left₀ hscale, ← cast_mul_pow]
  exact_mod_cast Iff.rfl

/-- **The power of two below a quotient.** -/
theorem floorLog2_eq_log (hnum : num ≠ 0) (hden : 0 < den) :
    floorLog2 num den = Int.log 2 ((num : ℚ) / den) := by
  have hden' : (0 : ℚ) < den := Nat.cast_pos.2 hden
  have hpos := quotient_pos hnum hden
  have hlow : (Nat.log2 num : Int) - Nat.log2 den - 1 ≤ Int.log 2 ((num : ℚ) / den) := by
    rw [← Int.zpow_le_iff_le_log one_lt_two hpos, le_div_iff₀ hden']
    calc (2 : ℚ) ^ ((Nat.log2 num : Int) - Nat.log2 den - 1) * den
        ≤ 2 ^ ((Nat.log2 num : Int) - Nat.log2 den - 1) * 2 ^ ((Nat.log2 den : Int) + 1) := by
          gcongr
          exact (lt_log_pow hden.ne').le
      _ = 2 ^ (Nat.log2 num : Int) := by
          rw [← zpow_add₀ two_ne_zero]
          congr 1
          omega
      _ ≤ num := log_pow_le hnum
  have hhigh : Int.log 2 ((num : ℚ) / den) < (Nat.log2 num : Int) - Nat.log2 den + 1 := by
    rw [← Int.lt_zpow_iff_log_lt one_lt_two hpos, div_lt_iff₀ hden']
    calc (num : ℚ) < 2 ^ ((Nat.log2 num : Int) + 1) := lt_log_pow hnum
      _ = 2 ^ ((Nat.log2 num : Int) - Nat.log2 den + 1) * 2 ^ (Nat.log2 den : Int) := by
          rw [← zpow_add₀ two_ne_zero]
          congr 1
          omega
      _ ≤ 2 ^ ((Nat.log2 num : Int) - Nat.log2 den + 1) * den := by
          gcongr
          exact log_pow_le hden.ne'
  -- The logarithms of the two parts leave two candidates, which the program compares.
  have hstep := @mul_pow_le_iff num den hden 1 ((Nat.log2 num : Int) - Nat.log2 den)
  rw [Nat.cast_one, one_mul, one_mul] at hstep
  have hstep := hstep.trans (Int.zpow_le_iff_le_log one_lt_two hpos)
  rw [floorLog2]
  simp only [Nat.pow_eq]
  split
  · next h =>
    have := hstep.1 h
    omega
  · next h =>
    have := mt hstep.2 h
    omega

/-! ## The mantissa -/

theorem le_roundHalfEven (hden : 0 < den) (h : a * den ≤ num) : a ≤ roundHalfEven num den := by
  have hquotient : a ≤ num / den := (Nat.le_div_iff_mul_le hden).2 h
  simp only [roundHalfEven]
  split_ifs <;> omega

theorem roundHalfEven_le (hden : 0 < den) (h : num ≤ a * den) : roundHalfEven num den ≤ a := by
  have hsplit : num / den * den + num % den = num := Nat.div_add_mod' num den
  have hquotient : num / den ≤ a := Nat.div_le_of_le_mul (Nat.mul_comm a den ▸ h)
  rcases hquotient.lt_or_eq with hlt | heq
  · simp only [roundHalfEven]
    split_ifs <;> omega
  · -- Nothing is left over, so nothing is added.
    have hrest : num % den = 0 := by rw [heq] at hsplit; omega
    rw [roundHalfEven, hrest, heq]
    exact (if_pos (by omega)).le

/-! ## Canonical numbers -/

/-- **The canonical form of a number of the format:** the mantissa fills the precision, unless the
exponent is the least one. -/
structure Format.Canonical (f : Format) (m : Nat) (e : Int) : Prop where
  lt : m < 2 ^ f.precision
  least_le : f.least ≤ e
  le_greatest : e ≤ f.greatest
  full : 2 ^ (f.precision - 1) ≤ m ∨ e = f.least

namespace Binary

/-- The exponent of a quotient in the format, before a carry. -/
def exponentOf (f : Format) (num den : Nat) : Int :=
  max f.least (floorLog2 num den - (f.precision - 1 : Nat))

/-- The mantissa of a quotient in the format, before a carry. -/
def mantissaOf (f : Format) (num den : Nat) : Nat :=
  let e := exponentOf f num den
  roundHalfEven (num * 2 ^ (-e).toNat) (den * 2 ^ e.toNat)

/-- **A rounded quotient** has the exponent of the power of two below it and the mantissa next to
it; a mantissa that is a digit too long moves into the exponent, and an exponent that is too high
leaves no number. -/
theorem ofRatio_cases (f : Format) (s : Bool) (hnum : num ≠ 0) (den : Nat) :
    (ofRatio f s num den = .infinite s ∧
      (mantissaOf f num den = 2 ^ f.precision ∧ f.greatest < exponentOf f num den + 1 ∨
        f.greatest < exponentOf f num den)) ∨
    (ofRatio f s num den = .finite s (mantissaOf f num den) (exponentOf f num den) ∧
      mantissaOf f num den ≠ 2 ^ f.precision ∧ exponentOf f num den ≤ f.greatest) ∨
    (ofRatio f s num den = .finite s (2 ^ (f.precision - 1)) (exponentOf f num den + 1) ∧
      mantissaOf f num den = 2 ^ f.precision ∧ exponentOf f num den + 1 ≤ f.greatest) := by
  have hm : roundHalfEven (num * Nat.pow 2 (-exponentOf f num den).toNat)
      (den * Nat.pow 2 (exponentOf f num den).toNat) = mantissaOf f num den := rfl
  have he : max f.least (floorLog2 num den - (f.precision - 1 : Nat)) = exponentOf f num den := rfl
  rw [ofRatio, if_neg hnum, he]
  dsimp only
  rw [hm]
  split_ifs with hcarry h h
  · exact .inl ⟨rfl, .inl ⟨hcarry, h⟩⟩
  · exact .inr (.inr ⟨rfl, hcarry, Int.not_lt.1 h⟩)
  · exact .inl ⟨rfl, .inr h⟩
  · exact .inr (.inl ⟨rfl, hcarry, Int.not_lt.1 h⟩)

/-- A rounded quotient is its mantissa in units of the exponent, also after a carry. -/
theorem eq_mantissaOf_of_ofRatio (hnum : num ≠ 0) (hf : 0 < f.precision)
    (h : ofRatio f s num den = .finite t m e) :
    t = s ∧ (m : ℚ) * 2 ^ e = mantissaOf f num den * 2 ^ exponentOf f num den := by
  obtain ⟨h', -⟩ | ⟨h', -, -⟩ | ⟨h', hcarry, -⟩ := ofRatio_cases f s hnum den
  · cases h'.symm.trans h
  · cases h'.symm.trans h
    exact ⟨rfl, rfl⟩
  · cases h'.symm.trans h
    refine ⟨rfl, ?_⟩
    push_cast [hcarry]
    rw [← zpow_natCast, ← zpow_natCast, ← zpow_add₀ two_ne_zero, ← zpow_add₀ two_ne_zero]
    congr 1
    omega

theorem le_mantissaOf (hden : 0 < den) (h : (a : ℚ) * 2 ^ exponentOf f num den ≤ num / den) :
    a ≤ mantissaOf f num den :=
  le_roundHalfEven (Nat.mul_pos hden (Nat.two_pow_pos _)) ((mul_pow_le_iff hden a _).2 h)

theorem mantissaOf_le (hden : 0 < den) (h : (num : ℚ) / den ≤ a * 2 ^ exponentOf f num den) :
    mantissaOf f num den ≤ a :=
  roundHalfEven_le (Nat.mul_pos hden (Nat.two_pow_pos _)) ((le_mul_pow_iff hden a _).2 h)

section Quotient

variable (hnum : num ≠ 0) (hden : 0 < den)
include hnum hden

/-- The exponent is high enough for the precision. -/
theorem mantissaOf_le_precision (hf : 0 < f.precision) :
    mantissaOf f num den ≤ 2 ^ f.precision := by
  have hlog := floorLog2_eq_log hnum hden
  have hexp : floorLog2 num den - (f.precision - 1 : Nat) ≤ exponentOf f num den := le_max_right _ _
  apply mantissaOf_le hden
  push_cast
  rw [← zpow_natCast, ← zpow_add₀ two_ne_zero]
  refine ((Int.lt_zpow_iff_log_lt one_lt_two (quotient_pos hnum hden)).2 ?_).le
  omega

/-- The exponent is no higher than the precision needs, unless it is the least one. -/
theorem precision_le_mantissaOf (f : Format) :
    2 ^ (f.precision - 1) ≤ mantissaOf f num den ∨ exponentOf f num den = f.least := by
  rcases le_total (floorLog2 num den - (f.precision - 1 : Nat)) f.least with h | h
  · exact .inr (max_eq_left h)
  · left
    have hlog := floorLog2_eq_log hnum hden
    apply le_mantissaOf hden
    push_cast
    rw [← zpow_natCast, ← zpow_add₀ two_ne_zero, exponentOf, max_eq_right h]
    refine (Int.zpow_le_iff_le_log one_lt_two (quotient_pos hnum hden)).2 ?_
    omega

/-- **A rounded number is canonical.** -/
theorem canonical_of_ofRatio (hf : 0 < f.precision) (h : ofRatio f s num den = .finite t m e) :
    f.Canonical m e := by
  have hleast : f.least ≤ exponentOf f num den := le_max_left _ _
  obtain ⟨h', -⟩ | ⟨h', hcarry, hgreatest⟩ | ⟨h', hcarry, hgreatest⟩ := ofRatio_cases f s hnum den
  · cases h'.symm.trans h
  · cases h'.symm.trans h
    exact ⟨lt_of_le_of_ne (mantissaOf_le_precision hnum hden hf) hcarry, hleast, hgreatest,
      precision_le_mantissaOf hnum hden f⟩
  · cases h'.symm.trans h
    exact ⟨Nat.pow_lt_pow_right one_lt_two (Nat.sub_lt hf one_pos), by omega, hgreatest,
      .inl le_rfl⟩

/-- **A number with a canonical form** is rounded to that form. -/
theorem ofRatio_of_canonical (h : f.Canonical m e) (hval : (num : ℚ) / den = m * 2 ^ e) :
    ofRatio f s num den = .finite s m e := by
  have hlog := floorLog2_eq_log hnum hden
  have hpos := quotient_pos hnum hden
  have hleast := h.least_le
  have hexp : exponentOf f num den = e := by
    have hlt : floorLog2 num den < f.precision + e := by
      rw [hlog]
      refine (Int.lt_zpow_iff_log_lt one_lt_two hpos).1 ?_
      rw [hval, Nat.cast_two, zpow_add₀ two_ne_zero, zpow_natCast]
      gcongr
      exact_mod_cast h.lt
    rw [exponentOf]
    obtain hfull | hleast := h.full
    · have hle : (f.precision - 1 : Nat) + e ≤ floorLog2 num den := by
        rw [hlog]
        refine (Int.zpow_le_iff_le_log one_lt_two hpos).1 ?_
        rw [hval, Nat.cast_two, zpow_add₀ two_ne_zero, zpow_natCast]
        gcongr
        exact_mod_cast hfull
      omega
    · omega
  have hmantissa : mantissaOf f num den = m :=
    Nat.le_antisymm (mantissaOf_le hden (by rw [hexp, hval]))
      (le_mantissaOf hden (by rw [hexp, hval]))
  have hcarry : mantissaOf f num den ≠ 2 ^ f.precision := hmantissa ▸ h.lt.ne
  have hgreatest : ¬ f.greatest < exponentOf f num den := hexp ▸ h.le_greatest.not_gt
  obtain ⟨-, h'⟩ | ⟨h', -, -⟩ | ⟨-, h', -⟩ := ofRatio_cases f s hnum den
  · exact absurd h' (not_or.2 ⟨fun h => hcarry h.1, hgreatest⟩)
  · rw [h', hmantissa, hexp]
  · exact absurd h' hcarry

/-- **Rounding stops at a power of two** that the format has. -/
theorem le_of_ofRatio (hf : 0 < f.precision) (hk : f.least ≤ k) (hle : (2 : ℚ) ^ k ≤ num / den)
    (h : ofRatio f s num den = .finite t m e) : (2 : ℚ) ^ k ≤ m * 2 ^ e := by
  have hmantissa : (2 : ℚ) ^ k ≤ mantissaOf f num den * 2 ^ exponentOf f num den := by
    rcases le_or_gt (exponentOf f num den) k with hexp | hexp
    · -- The power is a multiple of the unit of the mantissa.
      have hpow : ((2 ^ (k - exponentOf f num den).toNat : Nat) : ℚ) * 2 ^ exponentOf f num den =
          2 ^ k := by
        push_cast
        rw [← zpow_natCast, ← zpow_add₀ two_ne_zero]
        congr 1
        omega
      have hm : 2 ^ (k - exponentOf f num den).toNat ≤ mantissaOf f num den :=
        le_mantissaOf hden (hpow.trans_le hle)
      calc (2 : ℚ) ^ k
          = ((2 ^ (k - exponentOf f num den).toNat : Nat) : ℚ) * 2 ^ exponentOf f num den :=
            hpow.symm
        _ ≤ mantissaOf f num den * 2 ^ exponentOf f num den := by gcongr
    · -- Already the unit of the mantissa is past the power.
      have hm : 1 ≤ mantissaOf f num den :=
        (Nat.one_le_two_pow).trans
          ((precision_le_mantissaOf hnum hden f).resolve_right (by omega))
      calc (2 : ℚ) ^ k
          ≤ 2 ^ exponentOf f num den := zpow_le_zpow_right₀ one_le_two hexp.le
        _ = ((1 : Nat) : ℚ) * 2 ^ exponentOf f num den := by rw [Nat.cast_one, one_mul]
        _ ≤ mantissaOf f num den * 2 ^ exponentOf f num den := by gcongr
  exact hmantissa.trans_eq (eq_mantissaOf_of_ofRatio hnum hf h).2.symm

end Quotient

/-! ## From one format to another -/

/-- A number times a power as the quotient that is rounded. -/
theorem quotient_pow_eq {b : Nat} (hb : b ≠ 0) (m : Nat) (e : Int) :
    ((m * b ^ e.toNat : Nat) : ℚ) / (b ^ (-e).toNat : Nat) = m * (b : ℚ) ^ e := by
  have hb : (b : ℚ) ≠ 0 := Nat.cast_ne_zero.2 hb
  push_cast
  rw [pow_toNat hb e, ← mul_assoc, mul_div_cancel_right₀ _ (pow_ne_zero _ hb)]

/-- A finite number as the quotient that is rounded. -/
theorem quotient_eq (m : Nat) (e : Int) :
    ((m * 2 ^ e.toNat : Nat) : ℚ) / (2 ^ (-e).toNat : Nat) = m * 2 ^ e := by
  exact_mod_cast quotient_pow_eq two_ne_zero m e

theorem convert_finite_zero (f : Format) (s : Bool) (e : Int) :
    (finite s 0 e).convert f = zero f s :=
  if_pos (Nat.zero_mul _)

theorem convert_of_canonical {n : Nat} (hm : m ≠ 0) (h : f.Canonical n k)
    (hval : (m : ℚ) * 2 ^ e = n * 2 ^ k) : (finite s m e).convert f = .finite s n k :=
  ofRatio_of_canonical (Nat.mul_ne_zero hm (Nat.two_pow_pos _).ne') (Nat.two_pow_pos _) h
    ((quotient_eq m e).trans hval)

/-- **A converted number is canonical.** -/
theorem canonical_of_convert {n : Nat} (hf : 0 < f.precision) (hbounds : f.least ≤ f.greatest)
    (h : (finite s m e).convert f = .finite t n k) : f.Canonical n k := by
  by_cases hm : m = 0
  · rw [hm, convert_finite_zero] at h
    cases h
    exact ⟨Nat.two_pow_pos _, le_rfl, hbounds, .inr rfl⟩
  · exact canonical_of_ofRatio (Nat.mul_ne_zero hm (Nat.two_pow_pos _).ne') (Nat.two_pow_pos _) hf h

/-- **The wide format has the numbers of the narrow one,** with longer mantissas. -/
theorem exists_canonical_double (hm : m ≠ 0) (h : Format.single.Canonical m e) :
    ∃ n k, Format.double.Canonical n k ∧ (n : ℚ) * 2 ^ k = m * 2 ^ e := by
  have hlog : Nat.log2 m < 24 := (Nat.log2_lt hm).2 h.lt
  have hlow : -149 ≤ e := h.least_le
  have hhigh : e ≤ 104 := h.le_greatest
  refine ⟨m * 2 ^ (52 - Nat.log2 m), e - (52 - Nat.log2 m : Nat), ⟨?_, ?_, ?_, .inl ?_⟩, ?_⟩
  · calc m * 2 ^ (52 - Nat.log2 m)
        < 2 ^ (Nat.log2 m + 1) * 2 ^ (52 - Nat.log2 m) := by
          gcongr
          exact (Nat.log2_lt hm).1 (Nat.lt_succ_self _)
      _ = 2 ^ 53 := by
          rw [← pow_add]
          congr 1
          omega
  · change -1074 ≤ e - (52 - Nat.log2 m : Nat)
    omega
  · change e - (52 - Nat.log2 m : Nat) ≤ 971
    omega
  · calc 2 ^ 52 = 2 ^ Nat.log2 m * 2 ^ (52 - Nat.log2 m) := by
          rw [← pow_add]
          congr 1
          omega
      _ ≤ m * 2 ^ (52 - Nat.log2 m) := by
          gcongr
          exact Nat.log2_self_le hm
  · push_cast
    rw [mul_assoc, ← zpow_natCast, ← zpow_add₀ two_ne_zero]
    congr 2
    omega

/-- **A narrow number comes back from the wide format.** -/
theorem convert_convert_single (x : Binary) :
    ((x.convert .single).convert .double).convert .single = x.convert .single := by
  cases x with
  | nan | infinite _ => rfl
  | finite s m e =>
    cases hx : (finite s m e).convert .single with
    | nan | infinite _ => rfl
    | finite t n k =>
      have hcanonical := canonical_of_convert (by decide) (by decide) hx
      by_cases hn : n = 0
      · -- Of the canonical forms with mantissa zero there is one.
        obtain hfull | hleast := hcanonical.full
        · exact absurd hfull (by rw [hn]; decide)
        · rw [hn, hleast, convert_finite_zero, zero, convert_finite_zero, zero]
      · obtain ⟨n', k', hdouble, hval⟩ := exists_canonical_double hn hcanonical
        have hn' : n' ≠ 0 := by
          rintro rfl
          rw [Nat.cast_zero, zero_mul] at hval
          exact mul_ne_zero (Nat.cast_ne_zero.2 hn) (zpow_ne_zero _ two_ne_zero) hval.symm
        rw [convert_of_canonical hn hdouble hval.symm, convert_of_canonical hn' hcanonical hval]

/-! ## Whole numbers -/

/-- A sign before a whole number. -/
theorem cast_sign (s : Bool) (k : Nat) :
    ((if s then -(k : Int) else k : Int) : ℚ) = (if s then -1 else 1) * k := by
  cases s <;> simp

/-- A number without a fraction is the number that it denotes. -/
theorem cast_of_whole? {n : Int} (h : (finite s m e).whole? = some n) :
    (n : ℚ) = (if s then -1 else 1) * (m * 2 ^ e) := by
  rw [whole?] at h
  dsimp only [Nat.pow_eq] at h
  split at h
  · next hdvd =>
    have hvalue : ((m / 2 ^ (-e).toNat * 2 ^ e.toNat : Nat) : ℚ) = m * 2 ^ e := by
      rw [← quotient_eq, eq_div_iff (Nat.cast_ne_zero.2 (Nat.two_pow_pos _).ne')]
      norm_cast
      rw [Nat.mul_right_comm, Nat.div_mul_cancel (Nat.dvd_of_mod_eq_zero hdvd)]
    obtain rfl := Option.some.inj h
    rw [← hvalue]
    exact cast_sign s _
  · cases h

theorem natAbs_of_whole? {n : Int} (h : (finite s m e).whole? = some n) :
    (n.natAbs : ℚ) = m * 2 ^ e := by
  have hnonneg : (0 : ℚ) ≤ m * 2 ^ e := by positivity
  rw [Nat.cast_natAbs, Int.cast_abs, cast_of_whole? h, abs_mul, abs_of_nonneg hnonneg]
  cases s <;> simp

/-- **A number past a power of two** is not rounded to a whole number before it. -/
theorem le_natAbs_of_whole?_ofRatio {n : Int} {b : Nat} (hf : 0 < f.precision) (hb : f.least ≤ b)
    (hle : 2 ^ b ≤ num) (h : (ofRatio f s num 1).whole? = some n) : 2 ^ b ≤ n.natAbs := by
  have hnum : num ≠ 0 := ((Nat.two_pow_pos b).trans_le hle).ne'
  cases hx : ofRatio f s num 1 with
  | nan | infinite _ =>
    rw [hx] at h
    cases h
  | finite t m e =>
    rw [hx] at h
    have hpow : (2 : ℚ) ^ (b : Int) ≤ (num : ℚ) / (1 : Nat) := by
      rw [Nat.cast_one, div_one, zpow_natCast]
      exact_mod_cast hle
    have := (le_of_ofRatio hnum one_pos hf hb hpow hx).trans_eq (natAbs_of_whole? h).symm
    rw [zpow_natCast] at this
    exact_mod_cast this

end Binary

end RecordSheet.Number
