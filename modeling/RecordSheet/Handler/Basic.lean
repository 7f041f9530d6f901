import RecordSheet.Value

/-!
# Handler/Basic — how scalar values become cell texts and back

A handler encodes the values of a scalar type as text and decodes them.  Anyone may supply one; it
sees the attribute it works for, and what goes wrong is a text.
-/

namespace RecordSheet

/-- The identity of an attribute of a record type. -/
structure Descriptor where
  name : String
  /-- The name of the record type. -/
  declaringType : String
  type : DeclaredType
  /-- The position among the attributes of the record type. -/
  index : Nat
deriving DecidableEq

/-- What a handler knows about the cell it works on. -/
structure HandlerContext where
  descriptor : Descriptor
  /-- The scalar type under all containers of the attribute's type. -/
  element : ScalarType
  /-- The pattern declared for the attribute. -/
  format : Option String := none
deriving DecidableEq

/-- Encodes and decodes the values of one scalar type. -/
structure Handler where
  handledType : ScalarType
  /-- The text of a value that is not absent. -/
  encode : Value → HandlerContext → Except String String
  /-- The value of a text that is not blank. -/
  decode : String → HandlerContext → Except String Value

/-- What goes wrong in the built-in handlers. -/
inductive ScalarFault where
  | unsupported (kind : String) (type : ScalarType)
  | outOfRange (n : Int) (type : ScalarType)
  | notValid (text : String) (type : ScalarType)
  | notOneCharacter (text : String)
  | identifier (fault : Uuid.Fault)
  | calendar (message pattern : String)
  | notEnumeration (type : ScalarType)
  /-- A pattern asks for what a date or time does not have.  This is no fault that a handler
  returns: printing stops the program there.  It stands for that stop, and its text is of this
  library alone. -/
  | unwritable (pattern : String)
deriving DecidableEq, Repr

/-- The text of a fault. -/
def ScalarFault.message : ScalarFault → String
  | .unsupported k t => s!"cannot encode {k} value as {t.name}"
  | .outOfRange n t => s!"{n} is out of range for {t.name}"
  | .notValid s t => s!"{Text.quote s} is not a valid {t.name}"
  | .notOneCharacter s => s!"{Text.quote s} is not a single character"
  | .identifier f => f.message
  | .calendar m p => s!"{m} (pattern {Text.quote p})"
  | .notEnumeration t => s!"{t.name} is not an enum type"
  | .unwritable p => s!"pattern {Text.quote p} cannot be written"

/-- The handler of a scalar type made of an encoder and a decoder. -/
def Handler.ofScalar (type : ScalarType)
    (encode : Value → HandlerContext → Except ScalarFault String)
    (decode : String → HandlerContext → Except ScalarFault Value) : Handler where
  handledType := type
  encode v c := (encode v c).mapError ScalarFault.message
  decode s c := (decode s c).mapError ScalarFault.message

end RecordSheet
