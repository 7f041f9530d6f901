import RecordSheet.Calendar.Fields
import RecordSheet.Text.Bytes

/-!
# Calendar/Reader — dates and times read by a pattern

The items of the pattern are taken in order from the text.  Numbers may have white space in front,
names match in any case, and white space in the pattern matches any amount of it.  The whole text
has to be used, and its numbers have to determine one date or time.
-/

namespace RecordSheet.Calendar

namespace Reader

/-- What an item leaves: the fields read and the rest of the text. -/
abbrev Step := Except ReadFault (Fields × List Char)

/-- The largest number that is read, that of a signed word of 64 bits. -/
def largest : Nat := Nat.pow 2 63 - 1

/-- The number at the front of a text, of at most `max` digits, and the rest. -/
def number (max : Option Nat) (cs : List Char) : Except ReadFault (Nat × List Char) :=
  let digits := (match max with | some n => cs.take n | none => cs).takeWhile Char.isDigit
  if cs.isEmpty then .error .tooShort
  else if digits.isEmpty then .error .invalid
  else if largest < Number.valueFrom 0 digits then .error .outOfRange
  else .ok (Number.valueFrom 0 digits, cs.drop digits.length)

/-- The number of exactly `count` digits at the front of a text, and the rest. -/
def exactNumber (count : Nat) (cs : List Char) : Except ReadFault (Nat × List Char) :=
  if Text.byteLength cs < count then .error .tooShort
  else if (cs.take count).all Char.isDigit then
    .ok (Number.valueFrom 0 (cs.take count), cs.drop count)
  else .error .invalid

/-- The most digits a number has when it has no sign. -/
def width : NumberField → Option Nat
  | .year | .isoYear => some 4
  | .weekdayFromSunday | .weekdayFromMonday => some 1
  | .ordinal => some 3
  | .nano => some 9
  | .timestamp => none
  | _ => some 2

/-- Whether a number may have a sign. -/
def hasSign : NumberField → Bool
  | .year | .isoYear => true
  | _ => false

/-- The number a pattern asks for.  One with a sign may have any number of digits. -/
def fieldNumber (f : NumberField) (cs : List Char) : Except ReadFault (Int × List Char) := do
  let cs := cs.dropWhile Text.isSpace
  match hasSign f, cs with
  | true, '-' :: ds => do
    let (n, rest) ← number none ds
    return (-(n : Int), rest)
  | true, '+' :: ds => do
    let (n, rest) ← number none ds
    return ((n : Int), rest)
  | _, _ => do
    let (n, rest) ← number (width f) cs
    return ((n : Int), rest)

/-- Whether a text begins with a word, in any case of its ASCII letters. -/
def beginsWith (word cs : List Char) : Bool :=
  (word.map Char.toLower).isPrefixOf (cs.map Char.toLower)

/-- The position of the name whose short form the text begins with, and the rest.  The rest of a
long form is taken too if it follows. -/
def name (names : List String) (long : Bool) (cs : List Char) :
    Except ReadFault (Nat × List Char) :=
  if Text.byteLength cs < 3 then .error .tooShort
  else
    match names.findIdx? fun n => beginsWith (shortName n) cs with
    | none => .error .invalid
    | some i =>
      let ending := (names.getD i "").toList.drop 3
      let rest := cs.drop 3
      .ok (i, if long && beginsWith ending rest then rest.drop ending.length else rest)

/-- The half of the day at the front of a text, true after noon, and the rest. -/
def half (cs : List Char) : Except ReadFault (Bool × List Char) :=
  if Text.byteLength cs < 2 then .error .tooShort
  else if beginsWith ['a', 'm'] cs then .ok (false, cs.drop 2)
  else if beginsWith ['p', 'm'] cs then .ok (true, cs.drop 2)
  else .error .invalid

/-- The nanoseconds that the digits of a fraction stand for, of which those after the ninth are
skipped. -/
def fraction (cs : List Char) : Except ReadFault (Nat × List Char) := do
  let (n, rest) ← number (some 9) cs
  let count := cs.length - rest.length
  return (n * Nat.pow 10 (9 - count), rest.dropWhile Char.isDigit)

/-- The nanoseconds that a fixed number of places stands for. -/
def places (count : Nat) (cs : List Char) : Except ReadFault (Nat × List Char) := do
  let (n, rest) ← exactNumber count cs
  return (n * Nat.pow 10 (9 - count), rest)

/-- Takes one item from the front of a text. -/
def item (s : Fields) (cs : List Char) : Item → Step
  | .literal text =>
    if Text.byteLength cs < Text.byteLength text then .error .tooShort
    else if text.isPrefixOf cs then .ok (s, cs.drop text.length)
    else .error .invalid
  | .space _ => .ok (s, cs.dropWhile Text.isSpace)
  | .number f _ => do
    let (n, rest) ← fieldNumber f cs
    return (← s.set f n, rest)
  | .monthName long => do
    let (i, rest) ← name monthNames long cs
    return (← s.setMonth (i + 1), rest)
  | .weekdayName long => do
    let (i, rest) ← name weekdayNames long cs
    return (← s.setWeekday i, rest)
  | .half _ => do
    let (afternoon, rest) ← half cs
    return (← s.setHalf afternoon, rest)
  | .fraction =>
    match cs with
    | '.' :: ds => do
      let (n, rest) ← fraction ds
      return (← s.setNano n, rest)
    | _ => .ok (s, cs)
  | .places true count =>
    match cs with
    | '.' :: ds => do
      let (n, rest) ← places count ds
      return (← s.setNano n, rest)
    | _ => .ok (s, cs)
  | .places false count => do
    let (n, rest) ← places count cs
    return (← s.setNano n, rest)
  | .unknown => .error .badPattern

/-- Takes all items of a pattern, in order. -/
def items (s : Fields) (cs : List Char) : Pattern → Step
  | [] => .ok (s, cs)
  | i :: is => do
    let (s, cs) ← item s cs i
    items s cs is

/-- The fields of a text that is used up by the pattern. -/
def fields (p : Pattern) (text : String) : Except ReadFault Fields := do
  let (s, rest) ← items {} text.toList p
  if rest.isEmpty then return s else throw .tooLong

end Reader

/-- **Reads a date by a pattern.** -/
def Date.read (p : Pattern) (text : String) : Except ReadFault Date := do
  (← Reader.fields p text).date

/-- **Reads a time of day by a pattern.** -/
def Time.read (p : Pattern) (text : String) : Except ReadFault Time := do
  (← Reader.fields p text).time

/-- **Reads a date with a time by a pattern.** -/
def DateTime.read (p : Pattern) (text : String) : Except ReadFault DateTime := do
  (← Reader.fields p text).dateTime

end RecordSheet.Calendar
