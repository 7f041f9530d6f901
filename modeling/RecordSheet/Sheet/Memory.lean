import RecordSheet.Scope
import RecordSheet.Sheet.Row

/-!
# Sheet/Memory — a sheet kept in memory

The sheet takes headers as long as it has no rows, and rows with one cell for each header.  It gives
its rows back keyed by their headers, a blank cell as the empty text.
-/

namespace RecordSheet

/-- A sheet of texts in memory. -/
structure MemorySheet where
  headers : List String := []
  rows : List (List (Option String)) := []
deriving DecidableEq, Repr, Inhabited

namespace MemorySheet

/-- Why the sheet refuses a row. -/
inductive Fault where
  | headerAfterRows
  | sharedColumns (fault : SharedColumns)
  | cellCount (cells columns : Nat)
deriving DecidableEq, Repr

/-- The text of a fault. -/
def Fault.message : Fault → String
  | .headerAfterRows => "header must be written before data rows"
  | .sharedColumns f => f.message
  | .cellCount n m => s!"row has {n} cells but the header has {m} columns"

/-- **The sheet with other headers.** -/
def putHeaders (s : MemorySheet) (headers : List String) : Except Fault MemorySheet :=
  if !s.rows.isEmpty then .error .headerAfterRows
  else
    match checkHeaders headers with
    | .error f => .error (.sharedColumns f)
    | .ok () => .ok { s with headers := headers }

/-- **The sheet with one more row.** -/
def putRow (s : MemorySheet) (cells : List Cell) : Except Fault MemorySheet :=
  if cells.length ≠ s.headers.length then .error (.cellCount cells.length s.headers.length)
  else .ok { s with rows := s.rows ++ [cells.map Cell.text] }

/-- A step that leaves the sheet alone when it fails. -/
def step (put : MemorySheet → Except Fault MemorySheet) : EStateM String MemorySheet Unit :=
  fun s =>
    match put s with
    | .ok t => .ok () t
    | .error f => .error f.message s

instance : RowSink MemorySheet where
  writeHeader headers := step fun s => s.putHeaders headers
  writeRow cells := step fun s => s.putRow cells

/-- **The rows keyed by their headers.** -/
def scopes (s : MemorySheet) : List (Scope String) :=
  s.rows.map fun row => .ofList (s.headers.zip (row.map fun text => text.getD ""))

end MemorySheet

end RecordSheet
