/-!
# Mapping/Flags — how the value of an attribute is reached and converted

An attribute is converted by a handler or by an expression, and reached through a field or through
an accessor.  A set of flags says which; a sound plan has one flag of each pair.
-/

namespace RecordSheet

/-- Whether cells become values or values become cells. -/
inductive Direction where
  | read
  | write
deriving DecidableEq, Repr, Inhabited

/-- A set of ways to convert and to reach the value of an attribute. -/
structure Flags where
  handler : Bool := false
  expression : Bool := false
  field : Bool := false
  accessor : Bool := false
deriving DecidableEq, Repr, Inhabited

namespace Flags

/-- The flags of a set in order, with the names they are shown by. -/
def table (f : Flags) : List (String × Bool) :=
  [("USE_HANDLER", f.handler), ("USE_EXPRESSION", f.expression), ("FIELD_ACCESS", f.field),
   ("ACCESSOR_METHOD", f.accessor)]

/-- The names of the flags in the set, in order. -/
def names (f : Flags) : List String :=
  (f.table.filter Prod.snd).map Prod.fst

/-- The set as a number, one bit for each flag in order. -/
def bits (f : Flags) : Nat :=
  f.table.foldr (fun e n => 2 * n + e.2.toNat) 0

/-- The flags with one of the shown names. -/
def ofNames (names : List String) : Flags where
  handler := names.contains "USE_HANDLER"
  expression := names.contains "USE_EXPRESSION"
  field := names.contains "FIELD_ACCESS"
  accessor := names.contains "ACCESSOR_METHOD"

/-- The set as it is shown in messages. -/
def toText (f : Flags) : String :=
  let inside := if f.names.isEmpty then "0x0" else String.intercalate " | " f.names
  s!"AnalysisFlags({inside})"

end Flags

end RecordSheet
