import RecordSheet.Proofs.Handler.Typing
import RecordSheet.Proofs.Number.Numeral
import RecordSheet.Proofs.Uuid

/-!
# Proofs/Handler/Rereading — scalar values that come back from their own text

A handler **returns** a value when it writes it as a text that it reads as that value again
(`Handler.Returns`).  The handlers of the discrete types return all that they read; those of
floating-point numbers and days round, or follow a pattern.  The text may differ from the one that
was read: numbers, truth values and identifiers are written as words in one way only, and a constant
is written without the white space around it (`exists_returns_of_decode`).
-/

namespace RecordSheet

open Number (numeral)
open Outcome

/-! ## Words -/

namespace Text

/-- A text of visible characters other than brackets. -/
structure IsWord (s : String) : Prop where
  ne_empty : s ≠ ""
  visible : ∀ c ∈ s.toList, isSpace c = false ∧ c ≠ '[' ∧ c ≠ ']'

variable {c : Char} {cs : List Char}

theorem visible_of_isAlphanum (h : c.isAlphanum = true) :
    isSpace c = false ∧ c ≠ '[' ∧ c ≠ ']' := by
  refine ⟨isSpace_of_isAlphanum h, fun hc => ?_, fun hc => ?_⟩
  · rw [hc] at h
    cases h
  · rw [hc] at h
    cases h

theorem IsWord.trim_eq {s : String} (h : IsWord s) : trim s = s :=
  trim_of_forall fun c hc => (h.visible c hc).1

theorem IsWord.isBlank_eq_false {s : String} (h : IsWord s) : isBlank s = false := by
  obtain ⟨x, xs, hx⟩ := List.exists_cons_of_ne_nil fun hnil : s.toList = [] =>
    h.ne_empty (String.toList_injective hnil)
  exact isBlank_of_head hx (h.visible x (hx ▸ List.mem_cons_self)).1

theorem isWord_ofList (hne : cs ≠ []) (h : ∀ c ∈ cs, isSpace c = false ∧ c ≠ '[' ∧ c ≠ ']') :
    IsWord (String.ofList cs) where
  ne_empty he := hne (by rw [← String.toList_ofList (l := cs), he]; rfl)
  visible := by rwa [String.toList_ofList]

theorem isWord_numeral (n : Nat) : IsWord (String.ofList (numeral n)) :=
  isWord_ofList (Number.numeral_ne_nil n) fun c hc => visible_of_isAlphanum (by
    rw [Char.isAlphanum, Number.isDigit_of_mem_numeral hc, Bool.or_true])

theorem isWord_signed (n : Int) : IsWord (String.ofList (Number.signed n)) := by
  have hnumeral := (isWord_numeral n.natAbs).visible
  rw [String.toList_ofList] at hnumeral
  rw [Number.signed]
  split
  · exact isWord_ofList (List.cons_ne_nil _ _) (List.forall_mem_cons.2 ⟨by decide, hnumeral⟩)
  · exact isWord_numeral n.natAbs

theorem isWord_bool (b : Bool) : IsWord (if b then "true" else "false") := by
  have hall : ∀ {s : String}, s.toList.all Char.isAlphanum = true →
      ∀ c ∈ s.toList, isSpace c = false ∧ c ≠ '[' ∧ c ≠ ']' := fun h c hc =>
    visible_of_isAlphanum (List.all_eq_true.1 h c hc)
  cases b with
  | true => exact ⟨by decide, hall (by decide)⟩
  | false => exact ⟨by decide, hall (by decide)⟩

theorem isWord_singleton (h : isSpace c = false ∧ c ≠ '[' ∧ c ≠ ']') :
    IsWord (String.singleton c) := by
  have hc : String.singleton c = String.ofList [c] :=
    String.toList_injective (by rw [String.toList_singleton, String.toList_ofList])
  rw [hc]
  exact isWord_ofList (List.cons_ne_nil _ _) (List.forall_mem_singleton.2 h)

theorem isWord_uuid (u : Uuid) : IsWord u.toText := by
  have hdigit : ∀ d, (Uuid.hexChar d).isAlphanum = true := by decide
  refine isWord_ofList (List.length_pos_iff.1 (by rw [u.length_hyphenated]; decide)) fun c hc => ?_
  by_cases hhyphen : c = '-'
  · rw [hhyphen]
    decide
  · have hmem : c ∈ u.hyphenated.filter (· != '-') := List.mem_filter.2 ⟨hc, bne_iff_ne.2 hhyphen⟩
    rw [u.hyphens_and_filter_hyphenated.2] at hmem
    obtain ⟨d, -, rfl⟩ := List.mem_map.1 hmem
    exact visible_of_isAlphanum (hdigit d)

end Text

/-! ## Types whose values are kept -/

/-- Whether values of the type are written as they are: numbers that are whole, truth values,
characters, texts, identifiers and constants. -/
def ScalarType.isDiscrete : ScalarType → Bool
  | .bool | .signed _ | .unsigned _ | .char | .string | .uuid | .enumeration _ => true
  | .float _ | .date | .time | .dateTime | .named _ => false

namespace Handler

variable {h : Handler} {x : HandlerContext} {v : Value} {text : String} {w : Width}

/-- **The handler writes the value as the text** and reads it there. -/
structure Returns (h : Handler) (x : HandlerContext) (v : Value) (text : String) : Prop where
  encode : h.encode v x = .ok text
  decode : h.decode text x = .ok v

theorem returns_ofScalar {t : ScalarType}
    {encode : Value → HandlerContext → Except ScalarFault String}
    {decode : String → HandlerContext → Except ScalarFault Value} (hencode : encode v x = .ok text)
    (hdecode : decode text x = .ok v) : (ofScalar t encode decode).Returns x v text :=
  ⟨mapError_eq_ok_iff.2 hencode, mapError_eq_ok_iff.2 hdecode⟩

theorem signedNumber?_signed (n : Int64) :
    signedNumber? (String.ofList (Number.signed n.toInt)) = some n.toInt := by
  have hwithin : Number.within? (Width.signedMin .w64) (Width.signedMax .w64) n.toInt =
      some n.toInt := if_pos ⟨n.le_toInt, Int.le_sub_one_of_lt n.toInt_lt⟩
  rw [signedNumber?, String.toList_ofList, Number.int?_signed, Option.bind_some, hwithin]

/-- **A signed number** of the width. -/
theorem returns_signed {n : Int64} (hn : w.signedMin ≤ n.toInt ∧ n.toInt ≤ w.signedMax) :
    (signed w).Returns x (.int n) (String.ofList (Number.signed n.toInt)) := by
  refine returns_ofScalar rfl
    (decodeSigned_eq_ok_iff.2 ⟨_, ?_, hn, congrArg Value.int n.ofInt_toInt⟩)
  rw [(Text.isWord_signed _).trim_eq, signedNumber?_signed]

theorem unsignedNumber?_numeral (n : UInt64) :
    unsignedNumber? (String.ofList (numeral n.toNat)) = some (n.toNat : Int) := by
  have hlt : (n.toNat : Int) < 2 ^ 64 := by exact_mod_cast n.toNat_lt
  have hwithin : Number.within? 0 (Width.unsignedMax .w64) n.toNat = some (n.toNat : Int) :=
    if_pos ⟨Int.natCast_nonneg _, Int.le_sub_one_of_lt hlt⟩
  rw [unsignedNumber?, String.toList_ofList, Number.plusNat?_numeral, Option.bind_some, hwithin]

/-- **An unsigned number** of the width. -/
theorem returns_unsigned {n : UInt64} (hn : (n.toNat : Int) ≤ w.unsignedMax) :
    (unsigned w).Returns x (.uint n) (String.ofList (numeral n.toNat)) := by
  refine returns_ofScalar rfl (decodeUnsigned_eq_ok_iff.2 ⟨_, ?_, ⟨Int.natCast_nonneg _, hn⟩,
    congrArg Value.uint UInt64.ofNat_toNat⟩)
  rw [(Text.isWord_numeral _).trim_eq, unsignedNumber?_numeral]

theorem returns_bool (b : Bool) : bool.Returns x (.bool b) (if b then "true" else "false") := by
  refine returns_ofScalar rfl ?_
  cases b <;> rfl

theorem returns_char (c : Char) : char.Returns x (.char c) (String.singleton c) :=
  returns_ofScalar rfl (by rw [String.toList_singleton])

/-- **A character** is the text that it was read from. -/
theorem returns_of_decode_char (h : char.decode text x = .ok v) : char.Returns x v text := by
  have h := decode_ofScalar_eq_ok_iff.1 h
  split at h
  · next c hc =>
    obtain rfl := Except.ok.inj h
    obtain rfl : String.singleton c = text :=
      String.toList_injective (by rw [hc, String.toList_singleton])
    exact returns_char c
  · cases h

theorem returns_string (s : String) : string.Returns x (.str s) s :=
  returns_ofScalar rfl rfl

theorem returns_uuid (u : Uuid) : uuid.Returns x (.uuid u) u.toText :=
  returns_ofScalar rfl (by rw [(Text.isWord_uuid u).trim_eq, Uuid.read_toText]; rfl)

/-- **A constant** is the text that it was read from, without the white space around it. -/
theorem returns_of_decode_enumeration (h : enumeration.decode text x = .ok v) (hv : v ≠ .null) :
    enumeration.Returns x v (Text.trim text) := by
  have h := decode_ofScalar_eq_ok_iff.1 h
  split at h
  · next e hx =>
    split at h
    · next constant hc =>
      obtain rfl := Except.ok.inj h
      have hnamed := List.find?_some hc
      obtain rfl : Text.trim text = constant := (beq_iff_eq.1 hnamed).symm
      refine returns_ofScalar rfl ?_
      simp only [hx, Text.trim_trim, hc]
    · exact absurd (Except.ok.inj h).symm hv
  · cases h

/-- **What a discrete type's handler reads, it returns** from a text that is a word, or that text,
or that text without the white space around it. -/
theorem exists_returns_of_decode {t : ScalarType} (hhandler : Registry.builtin.get? t = some h)
    (ht : t.isDiscrete = true) (hd : h.decode text x = .ok v) (hv : v ≠ .null) :
    ∃ text', h.Returns x v text' ∧ (Text.IsWord text' ∨ text' = text ∨ text' = Text.trim text) := by
  cases t with
  | bool =>
    obtain rfl := Option.some.inj hhandler
    cases typed_of_decode_bool hd with
    | bool b => exact ⟨_, returns_bool b, .inl (Text.isWord_bool b)⟩
    | absent h => cases h
  | signed w =>
    obtain rfl := Option.some.inj ((get?_builtin_signed w).symm.trans hhandler)
    rw [signed, decode_ofScalar_eq_ok_iff] at hd
    cases typed_of_decodeSigned hd with
    | signed hn => exact ⟨_, returns_signed hn, .inl (Text.isWord_signed _)⟩
    | absent h => cases h
  | unsigned w =>
    obtain rfl := Option.some.inj ((get?_builtin_unsigned w).symm.trans hhandler)
    rw [unsigned, decode_ofScalar_eq_ok_iff] at hd
    cases typed_of_decodeUnsigned hd with
    | unsigned hn => exact ⟨_, returns_unsigned hn, .inl (Text.isWord_numeral _)⟩
    | absent h => cases h
  | char =>
    obtain rfl := Option.some.inj hhandler
    exact ⟨text, returns_of_decode_char hd, .inr (.inl rfl)⟩
  | string =>
    obtain rfl := Option.some.inj hhandler
    obtain rfl := Except.ok.inj (decode_ofScalar_eq_ok_iff.1 hd)
    exact ⟨text, returns_string text, .inr (.inl rfl)⟩
  | uuid =>
    obtain rfl := Option.some.inj hhandler
    obtain ⟨u, -, rfl⟩ := map_eq_ok_iff.1 (decode_ofScalar_eq_ok_iff.1 hd)
    exact ⟨_, returns_uuid u, .inl (Text.isWord_uuid u)⟩
  | enumeration e =>
    obtain rfl := Option.some.inj hhandler
    exact ⟨_, returns_of_decode_enumeration hd hv, .inr (.inr rfl)⟩
  | float _ | date | time | dateTime | named _ => cases ht

/-- **The zero of a discrete type is returned** from a word. -/
theorem exists_returns_zero {t : ScalarType} (hhandler : Registry.builtin.get? t = some h)
    (ht : t.isDiscrete = true) (hp : t.isPrimitive = true) (x : HandlerContext) :
    ∃ text, h.Returns x (.zero t) text ∧ Text.IsWord text := by
  cases t with
  | bool =>
    obtain rfl := Option.some.inj hhandler
    exact ⟨_, returns_bool false, Text.isWord_bool false⟩
  | signed w =>
    obtain rfl := Option.some.inj ((get?_builtin_signed w).symm.trans hhandler)
    exact ⟨_, returns_signed ⟨w.signedMin_nonpos, w.signedMax_nonneg⟩, Text.isWord_signed _⟩
  | unsigned w =>
    obtain rfl := Option.some.inj ((get?_builtin_unsigned w).symm.trans hhandler)
    exact ⟨_, returns_unsigned w.unsignedMax_nonneg, Text.isWord_numeral _⟩
  | char =>
    obtain rfl := Option.some.inj hhandler
    exact ⟨_, returns_char _, Text.isWord_singleton (by decide)⟩
  | string | uuid | enumeration _ | named _ | date | time | dateTime => cases hp
  | float _ => cases ht

/-- **A value is read as absent** only by the handler of a type without a zero. -/
theorem isPrimitive_of_decode_null {t : ScalarType} (hhandler : Registry.builtin.get? t = some h)
    (hd : h.decode text x = .ok .null) : t.isPrimitive = false := by
  by_contra hp
  have htyped : Value.Typed t .null :=
    typed_of_decode hhandler (by rintro e rfl; exact absurd rfl hp) hd
  cases htyped with
  | absent h => exact hp h

end Handler

end RecordSheet
