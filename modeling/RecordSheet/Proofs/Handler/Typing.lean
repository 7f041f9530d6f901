import Mathlib.Algebra.Group.Int.Defs
import RecordSheet.Field
import RecordSheet.Handler.Registry
import RecordSheet.Proofs.Outcome

/-!
# Proofs/Handler/Typing — scalar values and the fields that take them

A built-in handler checks what it reads, and a field checks what it is given, each by rules of its
own.  They agree on the values of a type (`Value.Typed`): what the handler of a type reads is one of
them (`typed_of_decode`), and so is the value of a blank cell (`typed_zero`); a field of the type
takes each of them (`Value.Typed.exists_accept`).
-/

namespace RecordSheet

open Number (Binary)
open Calendar (Date Time DateTime)
open Outcome

/-- **The values of a scalar type.**  A type without a zero has the absent value. -/
inductive Value.Typed : ScalarType → Value → Prop
  | bool (b : Bool) : Typed .bool (.bool b)
  | signed {w : Width} {n : Int64} (h : w.signedMin ≤ n.toInt ∧ n.toInt ≤ w.signedMax) :
    Typed (.signed w) (.int n)
  | unsigned {w : Width} {n : UInt64} (h : (n.toNat : Int) ≤ w.unsignedMax) :
    Typed (.unsigned w) (.uint n)
  | float (w : FloatWidth) (x : Binary) : Typed (.float w) (.float x)
  | char (c : Char) : Typed .char (.char c)
  | string (s : String) : Typed .string (.str s)
  | date (d : Date) : Typed .date (.date d)
  | time (t : Time) : Typed .time (.time t)
  | dateTime (t : DateTime) : Typed .dateTime (.dateTime t)
  | uuid (u : Uuid) : Typed .uuid (.uuid u)
  | enumeration {e : EnumType} {constant : String} (h : constant ∈ e.constants) :
    Typed (.enumeration e) (.enumeration constant)
  | absent {t : ScalarType} (h : t.isPrimitive = false) : Typed t .null

/-! ## Widths -/

namespace Width

variable (w : Width)

theorem signedMin_nonpos : w.signedMin ≤ 0 := by cases w <;> decide

theorem signedMax_nonneg : 0 ≤ w.signedMax := by cases w <;> decide

theorem unsignedMax_nonneg : 0 ≤ w.unsignedMax := by cases w <;> decide

theorem le_signedMin : -2 ^ 63 ≤ w.signedMin := by cases w <;> decide

theorem signedMax_lt : w.signedMax < 2 ^ 63 := by cases w <;> decide

theorem unsignedMax_lt : w.unsignedMax < 2 ^ 64 := by cases w <;> decide

/-- A number of a width is kept by 64 bits. -/
theorem toInt_ofInt {n : Int} (h : w.signedMin ≤ n ∧ n ≤ w.signedMax) : (Int64.ofInt n).toInt = n :=
  Int64.toInt_ofInt_of_le (Int.le_trans w.le_signedMin h.1) (Int.lt_of_le_of_lt h.2 w.signedMax_lt)

theorem toNat_ofNat {n : Int} (h : 0 ≤ n ∧ n ≤ w.unsignedMax) :
    ((UInt64.ofNat n.toNat).toNat : Int) = n := by
  have hlt : n.toNat < UInt64.size :=
    (Int.toNat_lt h.1).2 (Int.lt_of_le_of_lt h.2 w.unsignedMax_lt)
  rw [UInt64.toNat_ofNat_of_lt' hlt, Int.toNat_of_nonneg h.1]

end Width

/-- **The value of a blank cell** is one of the type. -/
theorem Value.typed_zero (t : ScalarType) : Typed t (.zero t) := by
  cases t with
  | bool => exact .bool false
  | signed w => exact .signed ⟨w.signedMin_nonpos, w.signedMax_nonneg⟩
  | unsigned w => exact .unsigned w.unsignedMax_nonneg
  | float w => exact .float w _
  | char => exact .char _
  | string | date | time | dateTime | uuid | enumeration _ | named _ => exact .absent rfl

/-! ## What a handler reads -/

namespace Handler

variable {text : String} {x : HandlerContext} {v : Value}

theorem decode_ofScalar_eq_ok_iff {t : ScalarType}
    {encode : Value → HandlerContext → Except ScalarFault String}
    {decode : String → HandlerContext → Except ScalarFault Value} :
    (ofScalar t encode decode).decode text x = .ok v ↔ decode text x = .ok v :=
  mapError_eq_ok_iff

theorem checkRange_eq_ok_iff {t : ScalarType} {low high m n : Int} :
    checkRange t low high m = .ok n ↔ (low ≤ m ∧ m ≤ high) ∧ m = n := by
  rw [checkRange]
  split
  · next h => rw [and_iff_right h, Except.ok.injEq]
  · next h => exact ⟨nofun, fun h' => absurd h'.1 h⟩

/-- What a signed handler reads is the number of the text, if it is one of the width. -/
theorem decodeSigned_eq_ok_iff {w : Width} :
    decodeSigned w text = .ok v ↔ ∃ n, signedNumber? (Text.trim text) = some n ∧
      (w.signedMin ≤ n ∧ n ≤ w.signedMax) ∧ .int (Int64.ofInt n) = v := by
  rw [decodeSigned]
  cases signedNumber? (Text.trim text) with
  | none => exact ⟨nofun, nofun⟩
  | some n => simp only [map_eq_ok_iff, checkRange_eq_ok_iff, and_assoc, Option.some.injEq,
      exists_eq_left', exists_and_left]

theorem decodeUnsigned_eq_ok_iff {w : Width} :
    decodeUnsigned w text = .ok v ↔ ∃ n, unsignedNumber? (Text.trim text) = some n ∧
      (0 ≤ n ∧ n ≤ w.unsignedMax) ∧ .uint (UInt64.ofNat n.toNat) = v := by
  rw [decodeUnsigned]
  cases unsignedNumber? (Text.trim text) with
  | none => exact ⟨nofun, nofun⟩
  | some n => simp only [map_eq_ok_iff, checkRange_eq_ok_iff, and_assoc, Option.some.injEq,
      exists_eq_left', exists_and_left]

theorem typed_of_decodeSigned {w : Width} (h : decodeSigned w text = .ok v) :
    v.Typed (.signed w) := by
  obtain ⟨n, -, hrange, rfl⟩ := decodeSigned_eq_ok_iff.1 h
  exact .signed ((w.toInt_ofInt hrange).symm ▸ hrange)

theorem typed_of_decodeUnsigned {w : Width} (h : decodeUnsigned w text = .ok v) :
    v.Typed (.unsigned w) := by
  obtain ⟨n, -, hrange, rfl⟩ := decodeUnsigned_eq_ok_iff.1 h
  exact .unsigned ((w.toNat_ofNat hrange).symm ▸ hrange.2)

theorem typed_of_decodeFloat {w : FloatWidth} (h : decodeFloat w text = .ok v) :
    v.Typed (.float w) := by
  rw [decodeFloat] at h
  split at h
  · obtain rfl := Except.ok.inj h
    exact .float w _
  · cases h

theorem typed_of_decode_bool (h : bool.decode text x = .ok v) : v.Typed .bool := by
  have h := decode_ofScalar_eq_ok_iff.1 h
  split at h
  · obtain rfl := Except.ok.inj h
    exact .bool _
  · cases h

theorem typed_of_decode_char (h : char.decode text x = .ok v) : v.Typed .char := by
  have h := decode_ofScalar_eq_ok_iff.1 h
  split at h
  · obtain rfl := Except.ok.inj h
    exact .char _
  · cases h

/-- A text that names no constant is read as absent. -/
theorem typed_of_decode_enumeration {e : EnumType} (hx : x.element = .enumeration e)
    (h : enumeration.decode text x = .ok v) : v.Typed (.enumeration e) := by
  have h := decode_ofScalar_eq_ok_iff.1 h
  simp only [hx] at h
  split at h
  · next hconstant =>
    obtain rfl := Except.ok.inj h
    exact .enumeration (List.mem_of_find?_eq_some hconstant)
  · obtain rfl := Except.ok.inj h
    exact .absent rfl

theorem get?_builtin_signed (w : Width) : Registry.builtin.get? (.signed w) = some (signed w) := by
  cases w <;> rfl

theorem get?_builtin_unsigned (w : Width) :
    Registry.builtin.get? (.unsigned w) = some (unsigned w) := by
  cases w <;> rfl

/-- **What a built-in handler reads** is a value of its type; that of enumerations is told which one
it works for. -/
theorem typed_of_decode {t : ScalarType} {handler : Handler}
    (hhandler : Registry.builtin.get? t = some handler)
    (hx : ∀ e, t = .enumeration e → x.element = t) (h : handler.decode text x = .ok v) :
    v.Typed t := by
  cases t with
  | bool =>
    obtain rfl := Option.some.inj hhandler
    exact typed_of_decode_bool h
  | signed w =>
    obtain rfl := Option.some.inj ((get?_builtin_signed w).symm.trans hhandler)
    rw [signed, decode_ofScalar_eq_ok_iff] at h
    exact typed_of_decodeSigned h
  | unsigned w =>
    obtain rfl := Option.some.inj ((get?_builtin_unsigned w).symm.trans hhandler)
    rw [unsigned, decode_ofScalar_eq_ok_iff] at h
    exact typed_of_decodeUnsigned h
  | float w =>
    obtain rfl : float w = handler := by cases w <;> exact Option.some.inj hhandler
    rw [float, decode_ofScalar_eq_ok_iff] at h
    exact typed_of_decodeFloat h
  | char =>
    obtain rfl := Option.some.inj hhandler
    exact typed_of_decode_char h
  | string =>
    obtain rfl := Option.some.inj hhandler
    obtain rfl := Except.ok.inj (decode_ofScalar_eq_ok_iff.1 h)
    exact .string text
  | date =>
    obtain rfl := Option.some.inj hhandler
    obtain ⟨d, -, rfl⟩ := map_eq_ok_iff.1 (decode_ofScalar_eq_ok_iff.1 h)
    exact .date d
  | time =>
    obtain rfl := Option.some.inj hhandler
    obtain ⟨t, -, rfl⟩ := map_eq_ok_iff.1 (decode_ofScalar_eq_ok_iff.1 h)
    exact .time t
  | dateTime =>
    obtain rfl := Option.some.inj hhandler
    obtain ⟨t, -, rfl⟩ := map_eq_ok_iff.1 (decode_ofScalar_eq_ok_iff.1 h)
    exact .dateTime t
  | uuid =>
    obtain rfl := Option.some.inj hhandler
    obtain ⟨u, -, rfl⟩ := map_eq_ok_iff.1 (decode_ofScalar_eq_ok_iff.1 h)
    exact .uuid u
  | enumeration e =>
    obtain rfl := Option.some.inj hhandler
    exact typed_of_decode_enumeration (hx e rfl) h
  | named n => cases hhandler

end Handler

/-! ## What a field takes -/

/-- **The field for the values of a type.**  A field of a type without a zero is optional, but for a
text, which may be empty; constants are held as texts, and a class known only by name is held as any
value. -/
def ScalarType.field : ScalarType → FieldType
  | .bool => .bool
  | .signed w => .signed w
  | .unsigned w => .unsigned w
  | .float w => .float w
  | .char => .char
  | .string => .string
  | .date => .option .date
  | .time => .option .time
  | .dateTime => .option .dateTime
  | .uuid => .option .uuid
  | .enumeration _ => .option .string
  | .named _ => .any

theorem FieldType.inRange_of_mem {type : String} {low high n : Int} (h : low ≤ n ∧ n ≤ high) :
    inRange type low high n = .ok n :=
  if_pos h

/-- **A field of a type takes its values.** -/
theorem Value.Typed.exists_accept {t : ScalarType} {v : Value} (h : v.Typed t) :
    ∃ held, t.field.accept v = .ok held := by
  cases h with
  | signed h =>
    exact ⟨_, bind_eq_ok_iff.2 ⟨_, rfl, bind_eq_ok_iff.2 ⟨_, FieldType.inRange_of_mem h, rfl⟩⟩⟩
  | @unsigned w n h =>
    have hrange : 0 ≤ (n.toNat : Int) ∧ (n.toNat : Int) ≤ w.unsignedMax := ⟨Int.natCast_nonneg _, h⟩
    exact ⟨_, bind_eq_ok_iff.2 ⟨_, rfl, bind_eq_ok_iff.2 ⟨_, FieldType.inRange_of_mem hrange, rfl⟩⟩⟩
  | float w x => cases w <;> exact ⟨_, rfl⟩
  | absent h =>
    cases t with
    | bool | signed _ | unsigned _ | float _ | char => cases h
    | string | date | time | dateTime | uuid | enumeration _ | named _ => exact ⟨_, rfl⟩
  | bool | char | string | date | time | dateTime | uuid | enumeration => exact ⟨_, rfl⟩

end RecordSheet
