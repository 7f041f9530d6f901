import RecordSheet.Text.Blank

/-!
# Decl/ScalarType — the types of single values

A scalar type is a fixed-width number, another built-in type, an enumeration with its constants, or
any class known only by name.  Types are ordered as they are listed here; enumerations are ordered
by name and then by constants.
-/

namespace RecordSheet

/-- The widths of whole numbers. -/
inductive Width where
  | w8
  | w16
  | w32
  | w64
deriving DecidableEq, Repr

namespace Width

/-- The number of bits of a width. -/
def bits : Width → Nat
  | .w8 => 8
  | .w16 => 16
  | .w32 => 32
  | .w64 => 64

/-- The least signed number of a width. -/
def signedMin (w : Width) : Int :=
  -Int.pow 2 (w.bits - 1)

/-- The greatest signed number of a width. -/
def signedMax (w : Width) : Int :=
  Int.pow 2 (w.bits - 1) - 1

/-- The greatest unsigned number of a width. -/
def unsignedMax (w : Width) : Int :=
  Int.pow 2 w.bits - 1

end Width

/-- The widths of floating-point numbers. -/
inductive FloatWidth where
  | single
  | double
deriving DecidableEq, Repr

/-- An enumeration with its constants in the order of their declaration. -/
structure EnumType where
  name : String
  constants : List String
deriving DecidableEq, Repr

namespace EnumType

/-- The constant that a text names, if it names one. -/
def constant? (e : EnumType) (text : String) : Option String :=
  e.constants.find? (· == text)

end EnumType

/-- The type of a single value. -/
inductive ScalarType where
  | bool
  | signed (w : Width)
  | unsigned (w : Width)
  | float (w : FloatWidth)
  | char
  | string
  | date
  | time
  | dateTime
  | uuid
  | enumeration (e : EnumType)
  | named (name : String)
deriving DecidableEq, Repr, Inhabited

namespace ScalarType

/-- The name of the type. -/
def name : ScalarType → String
  | .bool => "bool"
  | .signed w => "i" ++ toString w.bits
  | .unsigned w => "u" ++ toString w.bits
  | .float .single => "f32"
  | .float .double => "f64"
  | .char => "char"
  | .string => "String"
  | .date => "Date"
  | .time => "Time"
  | .dateTime => "DateTime"
  | .uuid => "Uuid"
  | .enumeration e => e.name
  | .named n => n

/-- Whether the type has a blank name, and so is no type at all. -/
def isAbsent : ScalarType → Bool
  | .enumeration e => Text.isBlank e.name
  | .named n => Text.isBlank n
  | _ => false

/-- Whether a blank cell holds a zero of the type: numbers, truth values and characters. -/
def isPrimitive : ScalarType → Bool
  | .bool | .signed _ | .unsigned _ | .float _ | .char => true
  | _ => false

/-- The place of the type in the order of types. -/
def rank : ScalarType → Nat
  | .bool => 0
  | .signed w => w.bits
  | .unsigned w => 100 + w.bits
  | .float .single => 200
  | .float .double => 201
  | .char => 202
  | .string => 203
  | .date => 204
  | .time => 205
  | .dateTime => 206
  | .uuid => 207
  | .enumeration _ => 208
  | .named _ => 209

/-- Whether a type comes before another or is the same. -/
def le (s t : ScalarType) : Bool :=
  match s, t with
  | .enumeration e, .enumeration f =>
    decide (e.name < f.name) || (e.name == f.name && !decide (f.constants < e.constants))
  | .named m, .named n => decide (m ≤ n)
  | s, t => decide (s.rank ≤ t.rank)

end ScalarType

end RecordSheet
