import RecordSheet.Entries
import RecordSheet.Failure
import RecordSheet.Handler.Calendar
import RecordSheet.Handler.Number
import RecordSheet.Handler.Text

/-!
# Handler/Registry — which handler serves which scalar type

A `HandlerTable` is filled step by step; the latest handler of a type counts.  A `Registry` is a
table that is closed for registration, and serves the enumerations without a handler of their own by
the handler of all enumerations.  No type with a blank name can be registered.
-/

namespace RecordSheet

/-- Handlers by the types they serve. -/
structure HandlerTable where
  /-- One entry for each type that is served. -/
  entries : List (ScalarType × Handler)

namespace HandlerTable

/-- The table without handlers. -/
def empty : HandlerTable :=
  ⟨[]⟩

instance : Inhabited HandlerTable := ⟨empty⟩

/-- The handler registered for exactly this type. -/
def get? (t : HandlerTable) (type : ScalarType) : Option Handler :=
  t.entries.lookup type

/-- Whether a handler is registered for exactly this type. -/
def contains (t : HandlerTable) (type : ScalarType) : Bool :=
  (t.get? type).isSome

/-- The table with a handler for a type, instead of an earlier one. -/
def insert (t : HandlerTable) (type : ScalarType) (handler : Handler) : HandlerTable :=
  ⟨Entries.put type handler t.entries⟩

/-- **Registers a handler for a type,** and says whether the type had none before. -/
def addFor (t : HandlerTable) (type : ScalarType) (handler : Handler) :
    Except SetupFault (HandlerTable × Bool) :=
  if type.isAbsent then .error .absentType
  else .ok (t.insert type handler, !t.contains type)

/-- Registers a handler for the type it names itself. -/
def add (t : HandlerTable) (handler : Handler) : Except SetupFault (HandlerTable × Bool) :=
  t.addFor handler.handledType handler

/-- The table with the entries of another one, which count more than its own. -/
def merge (t u : HandlerTable) : HandlerTable :=
  u.entries.foldl (fun t e => t.insert e.1 e.2) t

/-- The types that are served, in the order of types. -/
def types (t : HandlerTable) : List ScalarType :=
  (t.entries.map Prod.fst).mergeSort ScalarType.le

/-- The handlers for all scalar types but enumerations and named classes. -/
def builtinHandlers : List Handler :=
  [.bool, .char, .string, .uuid, .date, .time, .dateTime] ++
    [Width.w8, .w16, .w32, .w64].map .signed ++
    [Width.w8, .w16, .w32, .w64].map .unsigned ++
    [FloatWidth.single, .double].map .float

/-- The table of the built-in handlers. -/
def builtin : HandlerTable :=
  builtinHandlers.foldl (fun t h => t.insert h.handledType h) empty

/-- **An inserted handler serves its type, and all others stay.** -/
theorem get?_insert (t : HandlerTable) (type : ScalarType) (handler : Handler)
    (other : ScalarType) :
    (t.insert type handler).get? other = if other = type then some handler else t.get? other :=
  Entries.lookup_put type handler other t.entries

end HandlerTable

/-- A table closed for registration. -/
structure Registry where
  table : HandlerTable

namespace Registry

/-- The registry of the built-in handlers. -/
def builtin : Registry :=
  ⟨.builtin⟩

instance : Inhabited Registry := ⟨builtin⟩

/-- **The handler that serves a type.**  The handler of all enumerations stands in for an
enumeration without its own. -/
def get? (r : Registry) (type : ScalarType) : Option Handler :=
  match r.table.get? type with
  | some h => some h
  | none =>
    match type with
    | .enumeration _ => some .enumeration
    | _ => none

/-- Whether a handler is registered for exactly this type. -/
def contains (r : Registry) (type : ScalarType) : Bool :=
  r.table.contains type

/-- The types with a registered handler, in the order of types. -/
def types (r : Registry) : List ScalarType :=
  r.table.types

/-- A table with the same entries, open for registration. -/
def reopen (r : Registry) : HandlerTable :=
  HandlerTable.empty.merge r.table

end Registry

end RecordSheet
