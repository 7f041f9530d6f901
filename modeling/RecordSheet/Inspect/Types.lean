import RecordSheet.Handler.Registry
import RecordSheet.Text.Shown

/-!
# Inspect/Types — types, shapes and registries shown for inspection

Unlike `toText`, which writes a type as it is declared, inspection shows the construction of a type.
-/

namespace RecordSheet

open Text (quote showCall showRecord showList showSet showOption)

/-- The enumeration as it is shown. -/
def EnumType.inspect (e : EnumType) : String :=
  showRecord "SpecEnumType" [("name", quote e.name), ("constants", Text.showTexts e.constants)]

/-- The scalar type as it is shown. -/
def ScalarType.inspect : ScalarType → String
  | .bool => "Bool"
  | .signed w => "I" ++ toString w.bits
  | .unsigned w => "U" ++ toString w.bits
  | .float .single => "F32"
  | .float .double => "F64"
  | .char => "Char"
  | .string => "String"
  | .date => "Date"
  | .time => "Time"
  | .dateTime => "DateTime"
  | .uuid => "Uuid"
  | .enumeration e => showCall "Enum" [e.inspect]
  | .named n => showCall "Named" [quote n]

/-- The type without arguments as it is shown. -/
def RawType.inspect : RawType → String
  | .sequence n => showCall "Sequence" [quote n]
  | .scalar t => showCall "Class" [t.inspect]

namespace DeclaredType

mutual

/-- The declared type as it is shown. -/
def inspect : DeclaredType → String
  | .scalar t => showCall "Class" [t.inspect]
  | .array e => showCall "Array" [e.inspect]
  | .genericArray e => showCall "GenericArray" [e.inspect]
  | .generic r args =>
    showRecord "Parameterized" [("raw", r.inspect), ("args", showList (inspectAll args))]
  | .variable n bounds =>
    showRecord "Variable" [("name", quote n), ("bounds", showList (inspectAll bounds))]
  | .wildcard none upper =>
    showRecord "Wildcard" [("lower", showOption none), ("upper", showList (inspectAll upper))]
  | .wildcard (some lower) upper =>
    showRecord "Wildcard"
      [("lower", showOption (some lower.inspect)), ("upper", showList (inspectAll upper))]

/-- Several declared types as they are shown. -/
def inspectAll : List DeclaredType → List String
  | [] => []
  | t :: ts => t.inspect :: inspectAll ts

end

end DeclaredType

/-- The shape as it is shown. -/
def Shape.inspect : Shape → String
  | .scalar t => showCall "Concrete" [t.inspect]
  | .array s => showCall "Array" [s.inspect]
  | .iterable s => showCall "Iterable" [s.inspect]

/-- The handler as it is shown: by the type it is made for. -/
def Handler.inspect (h : Handler) : String :=
  "TypeHandler<" ++ h.handledType.name ++ ">"

/-- The registry as it is shown: by the types it serves. -/
def Registry.inspect (r : Registry) : String :=
  showRecord "TypeHandlerRegistry" [("types", showSet (r.types.map ScalarType.inspect))]

end RecordSheet
