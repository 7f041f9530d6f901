import RecordSheet.Mapping.Route
import RecordSheet.Sheet.Row

/-!
# Mapping/Writer — records become rows

A writer holds the columns of a schema, planned once.  It turns a record into cells in the order of
the attributes, and writes records to any sheet: the headers first, then a row for each record,
until something fails.
-/

namespace RecordSheet

variable {ρ σ : Type}

/-- Writes the records of a schema. -/
structure Writer (ρ : Type) where
  schema : Schema ρ
  columns : List (WriteColumn ρ)
  options : Options

/-- What was written. -/
structure WriteReport where
  /-- The number of records. -/
  rows : Nat := 0
  /-- The number of cells left blank. -/
  blank : Nat := 0
  warnings : List String := []
deriving DecidableEq, Repr

namespace Writer

/-- **Plans the columns of a schema.** -/
def make (s : Schema ρ) (registry : Registry) (o : Options) : Except SetupFault (Writer ρ) := do
  o.codec.validate.mapError .codec
  let columns ← s.writeColumns registry o
  return ⟨s, columns, o⟩

/-- The headers in the order of the columns. -/
def headers (w : Writer ρ) : List String :=
  w.columns.map fun c => c.plan.header

/-- Whether any column looks at the whole record. -/
def needsScope (w : Writer ρ) : Bool :=
  w.columns.any fun c => c.plan.usesExpression

/-- The values of a record under the names of their attributes. -/
def recordScope (w : Writer ρ) (r : ρ) : Scope Value :=
  .ofList (w.columns.map fun c => (c.plan.descriptor.name, c.get r))

/-- The cell of a record in a column; `scope` holds all values of the record. -/
def cell (w : Writer ρ) (r : ρ) (scope : Scope Value) (c : WriteColumn ρ) :
    Except Failure Cell := do
  let text ← c.plan.write w.options (c.get r) scope
  return ⟨c.plan.descriptor.name, c.plan.header, text⟩

/-- **The cells of a record.** -/
def convert (w : Writer ρ) (r : ρ) : Except Failure (List Cell) :=
  let scope := if w.needsScope then w.recordScope r else .empty
  w.columns.mapM (w.cell r scope)

/-- Writes one row for each record, and counts rows and blank cells. -/
def writeRecords [RowSink σ] (w : Writer ρ) :
    WriteReport → List ρ → EStateM Failure σ WriteReport
  | report, [] => pure report
  | report, r :: rs => do
    let cells ← match w.convert r with
      | .ok cells => pure cells
      | .error f => throw f
    EStateM.adaptExcept .sheet (RowSink.writeRow cells)
    let blank := cells.countP fun c => c.text.isNone
    writeRecords w { report with rows := report.rows + 1, blank := report.blank + blank } rs

/-- The warning for an attribute whose type no handler serves. -/
def blankWarning (name : String) : String :=
  s!"attribute `{name}` has no type handler; its column was left blank"

/-- The warnings for the attributes whose type no handler serves. -/
def warnings (w : Writer ρ) : List String :=
  (w.columns.filter fun c => c.plan.usesHandler && c.plan.handler.isNone).map fun c =>
    blankWarning c.plan.descriptor.name

/-- **Writes the headers and a row for each record.** -/
def write [RowSink σ] (w : Writer ρ) (records : List ρ) : EStateM Failure σ WriteReport := do
  EStateM.adaptExcept .sheet (RowSink.writeHeader w.headers)
  let report ← w.writeRecords {} records
  return { report with warnings := w.warnings }

end Writer

end RecordSheet
