import Mathlib.Data.List.TakeDrop
import Mathlib.Data.List.TakeWhile
import Mathlib.Data.Rat.Cast.Order
import RecordSheet.Number.Decimal
import RecordSheet.Proofs.Number.Numeral

/-!
# Proofs/Number/Denotation — the exact number that a decimal text stands for

A decimal text is read as an exact number before it is rounded to any format.  It is digits, some of
them behind a point, and an exponent (`decimal?_eq_some_iff`); the point and the exponent may be
left out, so the texts of whole numbers are decimal texts of the same numbers (`denotes_of_int?`).
-/

namespace RecordSheet.Number

variable {cs ds : List Char} {s : Bool} {n : Nat}

/-- **The exact value** of a decimal number. -/
def Decimal.toRat (d : Decimal) : ℚ :=
  (if d.negative then -1 else 1) * (d.coefficient * 10 ^ d.exponent)

/-- **The number that a decimal text denotes,** if it denotes one. -/
def Denotes (cs : List Char) (q : ℚ) : Prop :=
  ∃ d, decimalText? cs = some (.exact d) ∧ d.toRat = q

theorem Denotes.unique {p q : ℚ} (hp : Denotes cs p) (hq : Denotes cs q) : p = q := by
  obtain ⟨d, hd, rfl⟩ := hp
  obtain ⟨d', hd', rfl⟩ := hq
  obtain rfl := DecimalText.exact.inj (Option.some.inj (hd.symm.trans hd'))
  rfl

/-! ## The parts of a decimal number -/

/-- Characters that satisfy a condition, before one that does not. -/
theorem span_append {p : Char → Bool} {rest : List Char} (h : ∀ c ∈ cs, p c = true)
    (hrest : ∀ c, rest.head? = some c → p c = false) : (cs ++ rest).span p = (cs, rest) := by
  have hnone : rest.takeWhile p = [] ∧ rest.dropWhile p = rest := by
    cases rest with
    | nil => exact ⟨rfl, rfl⟩
    | cons c rest =>
      have hc := hrest c rfl
      rw [List.takeWhile_cons, List.dropWhile_cons, hc]
      exact ⟨rfl, rfl⟩
  rw [List.span_eq_takeWhile_dropWhile, List.takeWhile_append_of_pos h,
    List.dropWhile_append_of_pos h, hnone.1, hnone.2, List.append_nil]

theorem exists_eq_append_of_span {p : Char → Bool} {front rest : List Char}
    (h : cs.span p = (front, rest)) : cs = front ++ rest ∧ ∀ c ∈ front, p c = true := by
  rw [List.span_eq_takeWhile_dropWhile] at h
  obtain ⟨rfl, rfl⟩ := Prod.mk.inj h
  exact ⟨List.takeWhile_append_dropWhile.symm,
    fun c hc => List.all_eq_true.1 List.all_takeWhile c hc⟩

/-- What has an exponent starts with its mark, or is empty. -/
theorem not_isDigit_of_exponent? {e : Int} (h : exponent? cs = some e) :
    ∀ c, cs.head? = some c → c.isDigit = false ∧ c ≠ '.' := by
  rintro c hc
  obtain ⟨rest, rfl⟩ := List.head?_eq_some_iff.1 hc
  rw [exponent?] at h
  split at h
  · next hmark =>
    obtain rfl | rfl := hmark <;> decide
  · cases h

/-- **A decimal number without a sign** is digits, of which some may stand behind a point, and an
exponent.  Each digit behind the point takes one from the exponent. -/
theorem decimal?_eq_some_iff {d : Decimal} :
    decimal? s cs = some d ↔
      ∃ whole point fraction mark e, cs = whole ++ (point ++ (fraction ++ mark)) ∧
        (∀ c ∈ whole ++ fraction, c.isDigit = true) ∧ whole ++ fraction ≠ [] ∧
        (point = ['.'] ∨ point = [] ∧ fraction = []) ∧ exponent? mark = some e ∧
        d = ⟨s, valueFrom 0 (whole ++ fraction), e - fraction.length⟩ := by
  constructor
  · intro h
    rw [decimal?] at h
    cases hspan : cs.span Char.isDigit with
    | mk whole rest =>
    obtain ⟨rfl, hwhole⟩ := exists_eq_append_of_span hspan
    rw [hspan] at h
    dsimp only at h
    obtain ⟨point, hpoint, hrest, hfraction⟩ : ∃ point,
        (point = ['.'] ∨ point = [] ∧ (fractionPart rest).1 = []) ∧
        rest = point ++ ((fractionPart rest).1 ++ (fractionPart rest).2) ∧
        ∀ c ∈ (fractionPart rest).1, c.isDigit = true := by
      unfold fractionPart
      split
      · next behind =>
        obtain ⟨happend, hdigits⟩ :=
          exists_eq_append_of_span (Prod.mk.eta (p := behind.span _)).symm
        exact ⟨['.'], .inl rfl, congrArg ('.' :: ·) happend, hdigits⟩
      · exact ⟨[], .inr ⟨rfl, rfl⟩, rfl, nofun⟩
    split at h
    · cases h
    · next hne =>
      obtain ⟨e, he, rfl⟩ := Option.map_eq_some_iff.1 h
      refine ⟨whole, point, _, _, e, congrArg (whole ++ ·) hrest,
        List.forall_mem_append.2 ⟨hwhole, hfraction⟩, fun hnil => hne ?_, hpoint, he, rfl⟩
      obtain ⟨hwhole, hfraction⟩ := List.append_eq_nil_iff.1 hnil
      rw [hwhole, hfraction]
      rfl
  · rintro ⟨whole, point, fraction, mark, e, rfl, hdigits, hne, hpoint, he, rfl⟩
    obtain ⟨hwhole, hfraction⟩ := List.forall_mem_append.1 hdigits
    have hmark := not_isDigit_of_exponent? he
    have hspan : (whole ++ (point ++ (fraction ++ mark))).span Char.isDigit =
        (whole, point ++ (fraction ++ mark)) := by
      refine span_append hwhole fun c hc => ?_
      obtain rfl | ⟨rfl, rfl⟩ := hpoint
      · obtain rfl := Option.some.inj hc
        rfl
      · exact (hmark c hc).1
    have hpart : fractionPart (point ++ (fraction ++ mark)) = (fraction, mark) := by
      obtain rfl | ⟨rfl, rfl⟩ := hpoint
      · exact span_append hfraction fun c hc => (hmark c hc).1
      · unfold fractionPart
        split
        · next h => exact absurd rfl (hmark '.' (congrArg List.head? h)).2
        · rfl
    have hsome : (whole.isEmpty && fraction.isEmpty) = false := by
      rw [← Bool.not_eq_true, Bool.and_eq_true, List.isEmpty_iff, List.isEmpty_iff]
      rintro ⟨rfl, rfl⟩
      exact hne rfl
    rw [decimal?, hspan]
    dsimp only
    rw [hpart, hsome, he]
    rfl

/-! ## Whole numbers as decimal texts -/

theorem toLower_of_isDigit {c : Char} (h : c.isDigit = true) : c.toLower = c := by
  refine dif_neg fun hupper => ?_
  simp only [Char.isDigit, Bool.and_eq_true, decide_eq_true_eq, ge_iff_le] at h
  exact absurd (UInt32.le_trans hupper.1 h.2) (by decide)

theorem isNumeral_of_nat? (h : nat? cs = some n) : cs ≠ [] ∧ ∀ c ∈ cs, c.isDigit = true := by
  rw [nat?] at h
  split at h
  · next hnumeral =>
    rw [isNumeral, Bool.and_eq_true, Bool.not_eq_true', List.isEmpty_eq_false_iff,
      List.all_eq_true] at hnumeral
    exact hnumeral
  · cases h

/-- A numeral is no word. -/
theorem spells_of_nat? {word : String} (h : nat? cs = some n)
    (hword : word.toList.any Char.isDigit = false) : spells word cs = false := by
  obtain ⟨hne, hdigits⟩ := isNumeral_of_nat? h
  obtain ⟨d, ds, rfl⟩ := List.exists_cons_of_ne_nil hne
  have hd := hdigits d List.mem_cons_self
  rw [spells, List.map_cons, toLower_of_isDigit hd, beq_eq_false_iff_ne]
  intro heq
  have hmem : d ∈ word.toList := heq ▸ List.mem_cons_self
  exact List.any_eq_false.1 hword d hmem hd

theorem decimal?_of_nat? (h : nat? cs = some n) : decimal? s cs = some ⟨s, n, 0⟩ := by
  obtain ⟨hne, hdigits⟩ := isNumeral_of_nat? h
  have hvalue : valueFrom 0 cs = n := by
    rw [nat?] at h
    split at h
    · exact Option.some.inj h
    · cases h
  refine decimal?_eq_some_iff.2 ⟨cs, [], [], [], 0, ?_, ?_, ?_, .inr ⟨rfl, rfl⟩, rfl, ?_⟩
  · simp
  · simpa using hdigits
  · simpa using hne
  · rw [List.append_nil, hvalue]
    rfl

/-- A sign and a numeral. -/
theorem decimalText?_of_nat? (hsign : signAndRest cs = (s, ds)) (h : nat? ds = some n) :
    decimalText? cs = some (.exact ⟨s, n, 0⟩) := by
  rw [decimalText?, hsign]
  dsimp only
  rw [spells_of_nat? h rfl, spells_of_nat? h rfl, spells_of_nat? h rfl, decimal?_of_nat? h]
  rfl

/-- A numeral has no sign. -/
theorem signAndRest_of_nat? (h : nat? cs = some n) : signAndRest cs = (false, cs) := by
  obtain ⟨-, hdigits⟩ := isNumeral_of_nat? h
  unfold signAndRest
  split
  · exact nomatch hdigits '-' List.mem_cons_self
  · exact nomatch hdigits '+' List.mem_cons_self
  · rfl

theorem decimalText?_numeral (n : Nat) : decimalText? (numeral n) = some (.exact ⟨false, n, 0⟩) :=
  decimalText?_of_nat? (signAndRest_of_nat? (nat?_numeral n)) (nat?_numeral n)

theorem decimalText?_of_plusNat? (h : plusNat? cs = some n) :
    decimalText? cs = some (.exact ⟨false, n, 0⟩) := by
  unfold plusNat? at h
  split at h
  · exact decimalText?_of_nat? rfl h
  · exact decimalText?_of_nat? (signAndRest_of_nat? h) h

theorem denotes_of_plusNat? (h : plusNat? cs = some n) : Denotes cs n :=
  ⟨_, decimalText?_of_plusNat? h, by simp [Decimal.toRat]⟩

/-- **The text of a whole number** denotes that number. -/
theorem denotes_of_int? {k : Int} (h : int? cs = some k) : Denotes cs k := by
  unfold int? at h
  split at h
  · obtain ⟨_, hmap, rfl⟩ := Option.map_eq_some_iff.1 h
    obtain ⟨n, hn, hvalue⟩ := Option.bind_eq_some_iff.1 hmap
    obtain rfl := Option.some.inj hvalue
    exact ⟨_, decimalText?_of_nat? rfl hn, by simp [Decimal.toRat]⟩
  · obtain ⟨n, hn, rfl⟩ := Option.map_eq_some_iff.1 h
    exact_mod_cast denotes_of_plusNat? hn

end RecordSheet.Number
