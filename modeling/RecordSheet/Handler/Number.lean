import RecordSheet.Handler.Basic
import RecordSheet.Number.Decimal

/-!
# Handler/Number — whole and floating-point numbers in cells

Whole numbers are read in decimal digits, or from a decimal number without a fraction, as
spreadsheets often show them; that number is read as a floating-point number first and has to be
below 9 · 10 ^ 15.  Floating-point numbers are written in their shortest form.
-/

namespace RecordSheet

open Number

namespace Handler

/-- The bound below which whole floating-point numbers are taken as whole numbers. -/
def wholeLimit : Nat := 9000000000000000

/-- The whole number that a text denotes as a floating-point number. -/
def wholeFloat? (text : String) : Option Int := do
  let n ← (← Binary.ofText? .double text).whole?
  if n.natAbs < wholeLimit then some n else none

/-- The signed number of 64 bits that a text denotes. -/
def signedNumber? (text : String) : Option Int :=
  match (int? text.toList).bind (within? (Width.signedMin .w64) (Width.signedMax .w64)) with
  | some n => some n
  | none => wholeFloat? text

/-- The unsigned number of 64 bits that a text denotes. -/
def unsignedNumber? (text : String) : Option Int :=
  match (plusNat? text.toList).bind fun n => within? 0 (Width.unsignedMax .w64) n with
  | some n => some n
  | none => (wholeFloat? text).bind fun n => if 0 ≤ n then some n else none

/-- A number between the bounds of its type. -/
def checkRange (type : ScalarType) (low high n : Int) : Except ScalarFault Int :=
  if low ≤ n ∧ n ≤ high then .ok n else .error (.outOfRange n type)

/-- The number of 64 bits next to a whole number. -/
def clampSigned (n : Int) : Int :=
  max (Width.signedMin .w64) (min (Width.signedMax .w64) n)

/-- The text of a signed number.  No width is checked. -/
def encodeSigned (w : Width) : Value → Except ScalarFault String
  | .int n => .ok (String.ofList (Number.signed n.toInt))
  | .uint n => .ok (String.ofList (numeral n.toNat))
  | .float x =>
    match x.whole? with
    | some n => .ok (String.ofList (Number.signed (clampSigned n)))
    | none => .error (.unsupported "float" (.signed w))
  | v => .error (.unsupported v.kind (.signed w))

/-- The signed number of a text. -/
def decodeSigned (w : Width) (text : String) : Except ScalarFault Value :=
  let text := Text.trim text
  match signedNumber? text with
  | some n => (fun n => .int (Int64.ofInt n)) <$> checkRange (.signed w) w.signedMin w.signedMax n
  | none => .error (.notValid text (.signed w))

/-- The text of an unsigned number.  No width is checked. -/
def encodeUnsigned (w : Width) (v : Value) : Except ScalarFault String :=
  match v with
  | .uint n => .ok (String.ofList (numeral n.toNat))
  | .int n =>
    if 0 ≤ n.toInt then .ok (String.ofList (Number.signed n.toInt))
    else .error (.unsupported v.kind (.unsigned w))
  | v => .error (.unsupported v.kind (.unsigned w))

/-- The unsigned number of a text. -/
def decodeUnsigned (w : Width) (text : String) : Except ScalarFault Value :=
  let text := Text.trim text
  match unsignedNumber? text with
  | some n =>
    (fun n => .uint (UInt64.ofNat n.toNat)) <$> checkRange (.unsigned w) 0 w.unsignedMax n
  | none => .error (.notValid text (.unsigned w))

/-- The format of a floating-point type. -/
def format : FloatWidth → Format
  | .single => .single
  | .double => .double

/-- The text of a number in a floating-point type. -/
def encodeFloat (w : FloatWidth) (v : Value) : Except ScalarFault String :=
  let write (x : Binary) : Except ScalarFault String :=
    .ok ((x.convert (format w)).toText (format w))
  match v with
  | .float x => write x
  | .int n => write (.ofInt .double n.toInt)
  | .uint n => write (.ofInt .double n.toNat)
  | v => .error (.unsupported v.kind (.float w))

/-- The floating-point number of a text, rounded once to its type. -/
def decodeFloat (w : FloatWidth) (text : String) : Except ScalarFault Value :=
  let text := Text.trim text
  match Binary.ofText? (format w) text with
  | some x => .ok (.float (x.convert .double))
  | none => .error (.notValid text (.float w))

/-- **The handler of signed numbers of a width.** -/
def signed (w : Width) : Handler :=
  .ofScalar (.signed w) (fun v _ => encodeSigned w v) fun s _ => decodeSigned w s

/-- **The handler of unsigned numbers of a width.** -/
def unsigned (w : Width) : Handler :=
  .ofScalar (.unsigned w) (fun v _ => encodeUnsigned w v) fun s _ => decodeUnsigned w s

/-- **The handler of floating-point numbers of a width.** -/
def float (w : FloatWidth) : Handler :=
  .ofScalar (.float w) (fun v _ => encodeFloat w v) fun s _ => decodeFloat w s

end Handler

end RecordSheet
