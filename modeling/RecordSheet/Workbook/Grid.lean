import RecordSheet.Entries
import RecordSheet.Text.CaseMap

/-!
# Workbook/Grid — worksheets of cells

A worksheet holds what was written to its cells and the widths set for its columns; a cell written
again keeps the later text (`cell?_write`).  A workbook is a list of worksheets, each with a
numbered name until it is renamed.
-/

namespace RecordSheet

/-- A cell of a worksheet; a formatted cell may be blank. -/
structure GridCell where
  text : Option String
  bold : Bool
deriving DecidableEq, Repr, Inhabited

/-- A worksheet. -/
structure Worksheet where
  name : String
  /-- Whether the header stays in view. -/
  frozen : Bool := false
  /-- The widths set for columns, the latest first. -/
  widths : List (Nat × Nat) := []
  /-- The cells written at rows and columns, the latest first. -/
  cells : List ((Nat × Nat) × GridCell) := []
deriving DecidableEq, Repr, Inhabited

namespace Worksheet

/-- The cell at a row and column, if it was written. -/
def cell? (w : Worksheet) (row column : Nat) : Option GridCell :=
  w.cells.lookup (row, column)

/-- The width set for a column. -/
def width? (w : Worksheet) (column : Nat) : Option Nat :=
  w.widths.lookup column

/-- Writes a text to a cell; an empty text leaves it blank. -/
def write (w : Worksheet) (row column : Nat) (text : String) (bold : Bool) : Worksheet :=
  { w with cells := ((row, column), ⟨if text.isEmpty then none else some text, bold⟩) :: w.cells }

/-- Writes the texts of a row from a column on. -/
def writeRow (w : Worksheet) (row column : Nat) (bold : Bool) : List String → Worksheet
  | [] => w
  | text :: rest => (w.write row column text bold).writeRow row (column + 1) bold rest

/-- Sets the width of a column. -/
def setWidth (w : Worksheet) (column width : Nat) : Worksheet :=
  { w with widths := (column, width) :: w.widths }

/-- **A written cell is found where it was written, and all others stay.** -/
theorem cell?_write (w : Worksheet) (row column : Nat) (text : String) (bold : Bool) (i j : Nat) :
    (w.write row column text bold).cell? i j =
      if (i, j) = (row, column) then some ⟨if text.isEmpty then none else some text, bold⟩
      else w.cell? i j := by
  rw [cell?, write, Entries.lookup_cons]
  rfl

/-! ## Listing -/

/-- Keeps the first of neighbours with the same key. -/
def firstOfEach {κ α : Type} [DecidableEq κ] : List (κ × α) → List (κ × α)
  | [] => []
  | e :: es =>
    match firstOfEach es with
    | [] => [e]
    | f :: fs => if e.1 = f.1 then e :: fs else e :: f :: fs

/-- Whether a position comes before another or is the same, row by row. -/
def positionLE (p q : Nat × Nat) : Bool :=
  p.1 < q.1 || (p.1 == q.1 && p.2 ≤ q.2)

/-- The written cells in the order of rows and columns. -/
def listCells (w : Worksheet) : List ((Nat × Nat) × GridCell) :=
  firstOfEach (w.cells.mergeSort fun d e => positionLE d.1 e.1)

/-- The set widths in the order of columns. -/
def listWidths (w : Worksheet) : List (Nat × Nat) :=
  firstOfEach (w.widths.mergeSort fun d e => d.1 ≤ e.1)

end Worksheet

/-- Worksheets in order. -/
structure Workbook where
  worksheets : List Worksheet := []
deriving DecidableEq, Repr, Inhabited

namespace Workbook

/-- The number of characters a cell may hold. -/
def maxTextLength : Nat := 32767

/-- Whether a cell can hold a text. -/
def fits (text : String) : Bool :=
  text.length ≤ maxTextLength

/-- The name of a worksheet that has no other, by its position. -/
def numberedName (position : Nat) : String :=
  "Sheet" ++ toString (position + 1)

/-- Adds a worksheet at the end. -/
def add (b : Workbook) : Workbook :=
  ⟨b.worksheets ++ [{ name := numberedName b.worksheets.length }]⟩

/-- Changes the worksheet at a position. -/
def update (b : Workbook) (position : Nat) (f : Worksheet → Worksheet) : Workbook :=
  ⟨b.worksheets.modify position f⟩

/-- The first name, in lower case, that an earlier worksheet has in any case of its letters. -/
def reusedName? (seen : List String) : List Worksheet → Option String
  | [] => none
  | w :: ws =>
    let name := Text.lower w.name
    if name ∈ seen then some name else reusedName? (name :: seen) ws

/-- The worksheets of the file that a workbook is saved to: there is at least one. -/
def saved (b : Workbook) : List Worksheet :=
  if b.worksheets.isEmpty then b.add.worksheets else b.worksheets

end Workbook

end RecordSheet
