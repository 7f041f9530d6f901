import RecordSheet.Text.Quoted
import Std.Data.HashMap

/-!
# Sheet/Row — rows of cells and the sheets that take them

A sheet takes one row of headers and then rows of cells in the order of the headers.  What it
refuses may still leave traces in it, so a step gives the new sheet also when it fails.  No header
may occur twice, since a row keyed by its headers would lose a column.
-/

namespace RecordSheet

/-- A converted cell. -/
structure Cell where
  /-- The name of the attribute. -/
  name : String
  header : String
  /-- The text; without one the cell is blank. -/
  text : Option String
deriving DecidableEq, Repr, Inhabited

/-- A sheet that takes rows. -/
class RowSink (σ : Type) where
  writeHeader : List String → EStateM String σ Unit
  writeRow : List Cell → EStateM String σ Unit

/-- Two columns with one header. -/
structure SharedColumns where
  header : String
  first : Nat
  second : Nat
deriving DecidableEq, Repr

/-- The text of the fault. -/
def SharedColumns.message (f : SharedColumns) : String :=
  s!"header {Text.quote f.header} appears in columns {f.first} and {f.second}"

/-- The first header of a list that was seen before; `column` is the position of the list's head. -/
def checkHeadersFrom (seen : Std.HashMap String Nat) (column : Nat) :
    List String → Except SharedColumns Unit
  | [] => .ok ()
  | h :: hs =>
    match seen[h]? with
    | some first => .error ⟨h, first, column⟩
    | none => checkHeadersFrom (seen.insert h column) (column + 1) hs

/-- **The headers are distinct,** or the first that is not with its two columns. -/
def checkHeaders (headers : List String) : Except SharedColumns Unit :=
  checkHeadersFrom ∅ 0 headers

end RecordSheet
