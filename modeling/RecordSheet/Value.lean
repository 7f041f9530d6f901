import RecordSheet.Calendar.Time
import RecordSheet.Decl.Shape
import RecordSheet.Number.Shortest
import RecordSheet.Sequence.Codec
import RecordSheet.Uuid

/-!
# Value — what a cell holds once it is decoded

A value is absent, single, or a sequence of values.  `toText` shows it, `neutral` is the value of a
blank cell of a given shape, and `order` puts the values of one field type in order.
-/

namespace RecordSheet

open Number (Binary Format)
open Calendar (Date Time DateTime)

/-- A decoded value. -/
inductive Value where
  | null
  | bool (b : Bool)
  | int (n : Int64)
  | uint (n : UInt64)
  | float (x : Binary)
  | char (c : Char)
  | str (s : String)
  | date (d : Date)
  | time (t : Time)
  | dateTime (t : DateTime)
  | uuid (u : Uuid)
  | enumeration (constant : String)
  | seq (items : List Value)
deriving Inhabited, Repr

namespace Value

/-! ## Equality -/

mutual

/-- Decides equality of two values. -/
def decEq : (v w : Value) → Decidable (v = w)
  | .null, w => by
    cases w with
    | null => exact isTrue rfl
    | _ => exact isFalse (by simp)
  | .bool a, w => by
    cases w with
    | bool b => exact decidable_of_iff (a = b) (by simp)
    | _ => exact isFalse (by simp)
  | .int a, w => by
    cases w with
    | int b => exact decidable_of_iff (a = b) (by simp)
    | _ => exact isFalse (by simp)
  | .uint a, w => by
    cases w with
    | uint b => exact decidable_of_iff (a = b) (by simp)
    | _ => exact isFalse (by simp)
  | .float a, w => by
    cases w with
    | float b => exact decidable_of_iff (a = b) (by simp)
    | _ => exact isFalse (by simp)
  | .char a, w => by
    cases w with
    | char b => exact decidable_of_iff (a = b) (by simp)
    | _ => exact isFalse (by simp)
  | .str a, w => by
    cases w with
    | str b => exact decidable_of_iff (a = b) (by simp)
    | _ => exact isFalse (by simp)
  | .date a, w => by
    cases w with
    | date b => exact decidable_of_iff (a = b) (by simp)
    | _ => exact isFalse (by simp)
  | .time a, w => by
    cases w with
    | time b => exact decidable_of_iff (a = b) (by simp)
    | _ => exact isFalse (by simp)
  | .dateTime a, w => by
    cases w with
    | dateTime b => exact decidable_of_iff (a = b) (by simp)
    | _ => exact isFalse (by simp)
  | .uuid a, w => by
    cases w with
    | uuid b => exact decidable_of_iff (a = b) (by simp)
    | _ => exact isFalse (by simp)
  | .enumeration a, w => by
    cases w with
    | enumeration b => exact decidable_of_iff (a = b) (by simp)
    | _ => exact isFalse (by simp)
  | .seq vs, w =>
    match w with
    | .seq ws =>
      have := decEqList vs ws
      decidable_of_iff (vs = ws) (by simp)
    | .null | .bool _ | .int _ | .uint _ | .float _ | .char _ | .str _ | .date _ | .time _
    | .dateTime _ | .uuid _ | .enumeration _ => isFalse (by simp)

/-- Decides equality of two lists of values. -/
def decEqList : (vs ws : List Value) → Decidable (vs = ws)
  | [], [] => isTrue rfl
  | [], _ :: _ => isFalse (by simp)
  | _ :: _, [] => isFalse (by simp)
  | v :: vs, w :: ws =>
    have := decEq v w
    have := decEqList vs ws
    decidable_of_iff (v = w ∧ vs = ws) (by simp)

end

instance : DecidableEq Value := decEq

/-! ## Basic facts about a value -/

/-- Whether the value is absent. -/
def isNull : Value → Bool
  | .null => true
  | _ => false

theorem isNull_eq_false_iff {v : Value} : v.isNull = false ↔ v ≠ .null := by
  cases v <;> simp [isNull]

/-- The text of a string or of an enumeration constant. -/
def text? : Value → Option String
  | .str s => some s
  | .enumeration s => some s
  | _ => none

/-- The word for the kind of the value. -/
def kind : Value → String
  | .null => "null"
  | .bool _ => "bool"
  | .int _ => "int"
  | .uint _ => "uint"
  | .float _ => "float"
  | .char _ => "char"
  | .str _ => "string"
  | .date _ => "date"
  | .time _ => "time"
  | .dateTime _ => "datetime"
  | .uuid _ => "uuid"
  | .enumeration _ => "enum"
  | .seq _ => "sequence"

/-- The value of a blank cell of a scalar type: zero for a primitive type, and absent for any
other. -/
def zero : ScalarType → Value
  | .bool => .bool false
  | .signed _ => .int 0
  | .unsigned _ => .uint 0
  | .float _ => .float (Binary.zero .double false)
  | .char => .char (Char.ofNat 0)
  | _ => .null

/-- **A type without a zero** has an absent value. -/
theorem zero_of_not_isPrimitive {t : ScalarType} (h : t.isPrimitive = false) : zero t = .null := by
  cases t <;> first | rfl | cases h

/-- The value of a blank cell of a shape: a container is empty. -/
def neutral : Shape → Value
  | .scalar t => zero t
  | _ => .seq []

/-! ## Text -/

mutual

/-- **The value as text.**  An absent value shows nothing, and a sequence is written with the
ordinary brackets and delimiter. -/
def toText : Value → String
  | .null => ""
  | .bool b => if b then "true" else "false"
  | .int n => String.ofList (Number.signed n.toInt)
  | .uint n => String.ofList (Number.numeral n.toNat)
  | .float x => x.toText .double
  | .char c => String.singleton c
  | .str s => s
  | .date d => d.toText
  | .time t => t.toText
  | .dateTime t => t.toText
  | .uuid u => u.toText
  | .enumeration s => s
  | .seq items => ({} : SequenceCodec).serialize (listText items)

/-- The texts of several values. -/
def listText : List Value → List String
  | [] => []
  | v :: vs => v.toText :: listText vs

end

/-! ## Order -/

/-- The place of a kind of value among all kinds. -/
def rank : Value → Nat
  | .null => 0
  | .bool _ => 1
  | .int _ => 2
  | .uint _ => 3
  | .float _ => 4
  | .char _ => 5
  | .str _ => 6
  | .date _ => 7
  | .time _ => 8
  | .dateTime _ => 9
  | .uuid _ => 10
  | .enumeration _ => 11
  | .seq _ => 12

/-- Single values as lists of numbers in the same order; texts and identifiers are compared by their
characters and digits, and days and times from the largest unit to the smallest. -/
def sortKey : Value → List Int
  | .bool b => [if b then 1 else 0]
  | .int n => [n.toInt]
  | .uint n => [(n.toNat : Int)]
  | .char c => [(c.toNat : Int)]
  | .str s => s.toList.map fun c => (c.toNat : Int)
  | .enumeration s => s.toList.map fun c => (c.toNat : Int)
  | .date d => [d.year, d.month, d.day]
  | .time t => [t.hour, t.minute, t.second, t.nano]
  | .dateTime t =>
    [t.date.year, t.date.month, t.date.day, t.time.hour, t.time.minute, t.time.second, t.time.nano]
  | .uuid u => u.digits.map fun d => (d.val : Int)
  | _ => []

/-- The dictionary order of two lists of numbers. -/
def compareLists : List Int → List Int → Ordering
  | [], [] => .eq
  | [], _ :: _ => .lt
  | _ :: _, [] => .gt
  | m :: ms, n :: ns => (compare m n).then (compareLists ms ns)

mutual

/-- **The order of values:** an absent value is first, and sequences are compared element by
element. -/
def order : Value → Value → Ordering
  | .seq vs, w =>
    match w with
    | .seq ws => orderList vs ws
    | _ => .gt
  | v, w => (compare v.rank w.rank).then (compareLists v.sortKey w.sortKey)

/-- The dictionary order of two lists of values. -/
def orderList : List Value → List Value → Ordering
  | [], [] => .eq
  | [], _ :: _ => .lt
  | _ :: _, [] => .gt
  | v :: vs, w :: ws => (order v w).then (orderList vs ws)

end

end Value

end RecordSheet
