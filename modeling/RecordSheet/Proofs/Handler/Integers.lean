import RecordSheet.Proofs.Handler.Rereading
import RecordSheet.Proofs.Number.Denotation
import RecordSheet.Proofs.Number.Rounding

/-!
# Proofs/Handler/Integers — whole numbers that come back from their cells, and those that do not

The handlers of whole numbers write numbers of any width, and check the width only when they read.
So a number beyond the width of its handler has a text that the same handler refuses
(`decode_encode_integer`); none is ever read as another number.  Past the numbers of 64 bits a text
is read as a floating-point number, and there rounding keeps it past the limit up to which such a
number counts as whole (`wholeFloat?_numeral`).
-/

namespace RecordSheet

open Number (numeral)
open Outcome

/-! ## Numerals as floating-point numbers -/

namespace Number

namespace Binary

/-- **A numeral denotes its number,** rounded once. -/
theorem ofText?_numeral {n : Nat} (hn : n ≠ 0) :
    ofText? .double (String.ofList (numeral n)) = some (ofRatio .double false n 1) := by
  have hlow : ¬ (Nat.log2 n + 1 + 3 * (0 : Int) < Format.double.least - 1) := by
    change ¬ (Nat.log2 n + 1 + 3 * (0 : Int) < -1074 - 1)
    omega
  have hdecimal : ofDecimal .double false n 0 = ofRatio .double false n 1 := by
    rw [ofDecimal, if_neg hn, if_neg (by decide), if_neg hlow]
    exact congrArg (ofRatio .double false · 1) (Nat.mul_one n)
  rw [ofText?, String.toList_ofList, decimalText?_numeral]
  exact congrArg some hdecimal

end Binary

end Number

/-! ## Values and types of whole numbers -/

/-- The number of a whole-number value. -/
def Value.integer? : Value → Option Int
  | .int n => some n.toInt
  | .uint n => some n.toNat
  | _ => none

/-- The least and the greatest number of a type of whole numbers. -/
def ScalarType.bounds? : ScalarType → Option (Int × Int)
  | .signed w => some (w.signedMin, w.signedMax)
  | .unsigned w => some (0, w.unsignedMax)
  | _ => none

namespace Handler

variable {h : Handler} {x : HandlerContext} {v u : Value} {text : String} {w : Width} {n : Int}

theorem bounds_of_integer? (hv : v.integer? = some n) : -2 ^ 63 ≤ n ∧ n < 2 ^ 64 := by
  cases v with
  | int m =>
    obtain rfl := Option.some.inj hv
    have := m.le_toInt
    have := m.toInt_lt
    omega
  | uint m =>
    obtain rfl := Option.some.inj hv
    have := m.toNat_lt
    omega
  | _ => cases hv

/-! ## What is written -/

theorem signed_natCast (m : Nat) : Number.signed m = numeral m :=
  if_neg (by omega)

theorem encodeSigned_of_integer? (hv : v.integer? = some n) :
    encodeSigned w v = .ok (String.ofList (Number.signed n)) := by
  cases v with
  | int m =>
    obtain rfl := Option.some.inj hv
    rfl
  | uint m =>
    obtain rfl := Option.some.inj hv
    rw [signed_natCast]
    rfl
  | _ => cases hv

theorem encodeUnsigned_of_integer? (hv : v.integer? = some n) :
    encodeUnsigned w v = if 0 ≤ n then .ok (String.ofList (Number.signed n))
      else .error (.unsupported v.kind (.unsigned w)) := by
  cases v with
  | int m =>
    obtain rfl := Option.some.inj hv
    rfl
  | uint m =>
    obtain rfl := Option.some.inj hv
    rw [signed_natCast, if_pos (Int.natCast_nonneg _)]
    rfl
  | _ => cases hv

/-! ## What is read -/

/-- **A large numeral is no whole floating-point number:** rounding leaves it past the limit. -/
theorem wholeFloat?_numeral {m : Nat} (h : 2 ^ 53 ≤ m) :
    wholeFloat? (String.ofList (numeral m)) = none := by
  have hm : m ≠ 0 := ((Nat.two_pow_pos 53).trans_le h).ne'
  rw [wholeFloat?, Number.Binary.ofText?_numeral hm]
  cases hwhole : (Number.Binary.ofRatio .double false m 1).whole? with
  | none => exact congrArg (Option.bind · _) hwhole
  | some k =>
    have hlarge : 2 ^ 53 ≤ k.natAbs :=
      Number.Binary.le_natAbs_of_whole?_ofRatio (by decide) (by decide) h hwhole
    have hlimit : ¬ k.natAbs < wholeLimit := by
      rw [wholeLimit]
      omega
    exact (congrArg (Option.bind · _) hwhole).trans (if_neg hlimit)

theorem signedNumber?_eq (hlow : -2 ^ 63 ≤ n) :
    signedNumber? (String.ofList (Number.signed n)) = if n < 2 ^ 63 then some n else none := by
  rw [signedNumber?, String.toList_ofList, Number.int?_signed, Option.bind_some]
  split_ifs with h
  · have hwithin : Number.within? (Width.signedMin .w64) (Width.signedMax .w64) n = some n :=
      if_pos ⟨hlow, Int.le_sub_one_of_lt h⟩
    rw [hwithin]
  · have hwithin : Number.within? (Width.signedMin .w64) (Width.signedMax .w64) n = none :=
      if_neg fun hn => h (Int.lt_of_le_sub_one hn.2)
    obtain ⟨m, rfl⟩ := Int.eq_ofNat_of_zero_le (a := n) (by omega)
    rw [hwithin, signed_natCast]
    exact wholeFloat?_numeral (by omega)

theorem unsignedNumber?_eq (hn : 0 ≤ n ∧ n < 2 ^ 64) :
    unsignedNumber? (String.ofList (Number.signed n)) = some n := by
  obtain ⟨m, rfl⟩ := Int.eq_ofNat_of_zero_le hn.1
  have hm : m < UInt64.size := by exact_mod_cast hn.2
  have h := unsignedNumber?_numeral (UInt64.ofNat m)
  rw [UInt64.toNat_ofNat_of_lt' hm] at h
  rw [signed_natCast, h]

/-- **A signed handler reads the numbers of its width** as themselves, and refuses all others. -/
theorem decodeSigned_signed (hlow : -2 ^ 63 ≤ n) :
    (∀ u, decodeSigned w (String.ofList (Number.signed n)) = .ok u → u.integer? = some n) ∧
      ((∃ u, decodeSigned w (String.ofList (Number.signed n)) = .ok u) ↔
        w.signedMin ≤ n ∧ n ≤ w.signedMax) := by
  have hmax := w.signedMax_lt
  simp only [decodeSigned_eq_ok_iff, (Text.isWord_signed n).trim_eq, signedNumber?_eq hlow,
    Option.ite_none_right_eq_some, Option.some.injEq]
  constructor
  · rintro u ⟨m, ⟨-, rfl⟩, hrange, rfl⟩
    exact congrArg some (w.toInt_ofInt hrange)
  · constructor
    · rintro ⟨u, m, ⟨-, rfl⟩, hrange, -⟩
      exact hrange
    · intro hrange
      exact ⟨_, n, ⟨by omega, rfl⟩, hrange, rfl⟩

/-- **An unsigned handler reads the numbers of its width** as themselves, and refuses all others. -/
theorem decodeUnsigned_signed (hn : 0 ≤ n ∧ n < 2 ^ 64) :
    (∀ u, decodeUnsigned w (String.ofList (Number.signed n)) = .ok u → u.integer? = some n) ∧
      ((∃ u, decodeUnsigned w (String.ofList (Number.signed n)) = .ok u) ↔
        0 ≤ n ∧ n ≤ w.unsignedMax) := by
  simp only [decodeUnsigned_eq_ok_iff, (Text.isWord_signed n).trim_eq, unsignedNumber?_eq hn,
    Option.some.injEq]
  constructor
  · rintro u ⟨m, rfl, hrange, rfl⟩
    exact congrArg some (w.toNat_ofNat hrange)
  · constructor
    · rintro ⟨u, m, rfl, hrange, -⟩
      exact hrange
    · intro hrange
      exact ⟨_, n, rfl, hrange, rfl⟩

/-- **Whole numbers in cells.**  The handler of a type of whole numbers writes every whole-number
value, but for a negative one of an unsigned type.  What it writes it reads as no other number, and
it reads it exactly if the number is one of the type. -/
theorem decode_encode_integer {t : ScalarType} {low high : Int} (ht : t.bounds? = some (low, high))
    (hhandler : Registry.builtin.get? t = some h) (hv : v.integer? = some n) (x : HandlerContext) :
    ((∃ text, h.encode v x = .ok text) ↔ low < 0 ∨ 0 ≤ n) ∧
      ∀ text, h.encode v x = .ok text →
        (∀ u, h.decode text x = .ok u → u.integer? = some n) ∧
          ((∃ u, h.decode text x = .ok u) ↔ low ≤ n ∧ n ≤ high) := by
  have hbounds := bounds_of_integer? hv
  cases t with
  | signed w =>
    obtain ⟨rfl, rfl⟩ := Prod.mk.inj (Option.some.inj ht)
    obtain rfl := Option.some.inj ((get?_builtin_signed w).symm.trans hhandler)
    have hencode : (signed w).encode v x = .ok (String.ofList (Number.signed n)) :=
      mapError_eq_ok_iff.2 (encodeSigned_of_integer? hv)
    refine ⟨iff_of_true ⟨_, hencode⟩ (.inl (by cases w <;> decide)), fun text htext => ?_⟩
    obtain rfl := Except.ok.inj (hencode.symm.trans htext)
    simp only [signed, decode_ofScalar_eq_ok_iff]
    exact decodeSigned_signed hbounds.1
  | unsigned w =>
    obtain ⟨rfl, rfl⟩ := Prod.mk.inj (Option.some.inj ht)
    obtain rfl := Option.some.inj ((get?_builtin_unsigned w).symm.trans hhandler)
    have hencode := encodeUnsigned_of_integer? (w := w) hv
    by_cases hn : 0 ≤ n
    · rw [if_pos hn] at hencode
      have hencode : (unsigned w).encode v x = .ok (String.ofList (Number.signed n)) :=
        mapError_eq_ok_iff.2 hencode
      refine ⟨iff_of_true ⟨_, hencode⟩ (.inr hn), fun text htext => ?_⟩
      obtain rfl := Except.ok.inj (hencode.symm.trans htext)
      simp only [unsigned, decode_ofScalar_eq_ok_iff]
      exact decodeUnsigned_signed ⟨hn, hbounds.2⟩
    · rw [if_neg hn] at hencode
      have hrefused : ∀ text, (unsigned w).encode v x ≠ .ok text := fun text htext => by
        cases hencode.symm.trans (mapError_eq_ok_iff.1 htext)
      exact ⟨iff_of_false (not_exists.2 hrefused) (by omega),
        fun text htext => absurd htext (hrefused text)⟩
  | _ => cases ht

/-- What a handler knows of the cells of an attribute of the type. -/
def attributeOf (t : ScalarType) : HandlerContext where
  descriptor := ⟨"value", "Row", .scalar t, 0⟩
  element := t

/-- The least number of eight bits comes back. -/
theorem decode_encode_integer_least :
    ∃ u, (signed .w8).decode "-128" (attributeOf (.signed .w8)) = .ok u ∧
      u.integer? = some (-128) := by
  have h := (decode_encode_integer (v := .int (-128)) rfl (get?_builtin_signed .w8) rfl
    (attributeOf (.signed .w8))).2 "-128" rfl
  obtain ⟨u, hu⟩ := h.2.2 (by decide)
  exact ⟨u, hu, h.1 u hu⟩

/-- **A number beyond the width is written,** and its text is refused. -/
theorem exists_integer_refused :
    ∃ (h : Handler) (v : Value) (text : String),
      Registry.builtin.get? (.signed .w8) = some h ∧ v.integer? = some 300 ∧
      h.encode v (attributeOf (.signed .w8)) = .ok text ∧
      h.decode text (attributeOf (.signed .w8)) = .error "300 is out of range for i8" :=
  ⟨signed .w8, .int 300, "300", get?_builtin_signed .w8, rfl, rfl, rfl⟩

end Handler

end RecordSheet
