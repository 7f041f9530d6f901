import RecordSheet.Sheet.Row
import RecordSheet.Workbook.ColumnWidth
import RecordSheet.Workbook.Grid
import RecordSheet.Workbook.SheetName

/-!
# Workbook/Sink — rows become worksheets of a file

The sink fills one worksheet after the other: each is opened under a name, takes one header row and
then data rows, and is finished when the next one is opened or the workbook is closed.  Rows that
arrive before any worksheet is opened go to one with an ordinary name.  While rows arrive the widest
text of each column is measured, and when a worksheet is finished its columns get their widths.

Worksheets are addressed by the number of those opened before; a worksheet whose name is refused
stays in the workbook.  The workbook is saved once, when it is closed; how saving it ends is for the
file system and the library of workbooks to say, and is given to `WorkbookSink.close`.
-/

namespace RecordSheet

/-! ## Options and reports -/

/-- The choices of a workbook sink. -/
structure SinkOptions where
  /-- The name of the worksheet for rows that arrive before any is opened. -/
  defaultSheet : String := SheetName.fallback
  /-- What stands for characters a name may not have. -/
  replacement : Char := '_'
  boldHeader : Bool := true
  freezeHeader : Bool := true
  autofit : AutofitPolicy := {}
deriving DecidableEq, Repr, Inhabited

/-- What was written to a worksheet. -/
structure SheetReport where
  name : String
  columns : Nat := 0
  /-- The number of data rows. -/
  rows : Nat := 0
  warnings : List String := []
deriving DecidableEq, Repr

/-! ## Faults -/

/-- Why a workbook is not saved. -/
inductive SaveFault where
  | nameReused (name : String)
  /-- The file system refuses the file, in words of its own. -/
  | system (text : String)
deriving DecidableEq, Repr

/-- The text of a fault. -/
def SaveFault.message : SaveFault → String
  | .nameReused n => s!"Worksheet name '{n}' has already been used in this workbook."
  | .system t => t

/-- What is wrong with the workbook or its file. -/
inductive FileFault where
  | sheetName (fault : SheetName.Fault)
  | textTooLong
  | noWorksheet (position : Nat)
  | noColumn
  | unsaved (fault : SaveFault)
deriving DecidableEq, Repr

/-- The text of a fault. -/
def FileFault.message : FileFault → String
  | .sheetName f => f.message
  | .textTooLong => "String exceeds Excel's limit of 32,767 characters."
  | .noWorksheet n => s!"Unknown Worksheet name or index: '{n}'."
  | .noColumn => "Row or column exceeds Excel's allowed limits (1,048,576 x 16,384)."
  | .unsaved f => f.message

/-- Why a workbook sink refuses a step. -/
inductive SinkFault where
  | closed
  | tooManyColumns (columns : Nat)
  | sharedColumns (fault : SharedColumns)
  | secondHeader (sheet : String)
  | rowBeforeHeader (sheet : String)
  | cellCount (cells columns : Nat)
  | full (sheet : String)
  | misplaced (header : String) (column : Nat) (expected : String)
  /-- A sum is greater than a machine word.  This is no fault that a step returns: it stops a
  program that was built to check its sums. -/
  | overflow
  | file (fault : FileFault)
deriving DecidableEq, Repr

namespace WorkbookSink

/-- The number of rows of a worksheet. -/
def maxRows : Nat := 1048576

/-- The number of columns of a worksheet. -/
def maxColumns : Nat := 16384

end WorkbookSink

/-- The text of a fault. -/
def SinkFault.message : SinkFault → String
  | .closed => "workbook is already closed"
  | .tooManyColumns n => s!"{n} columns exceed the Excel limit of {WorkbookSink.maxColumns}"
  | .sharedColumns f => f.message
  | .secondHeader s => s!"sheet {Text.quote s} already has a header row"
  | .rowBeforeHeader s => s!"sheet {Text.quote s} received a data row before its header"
  | .cellCount n m => s!"row has {n} cells but the header has {m} columns"
  | .full s => s!"sheet {Text.quote s} is full at {WorkbookSink.maxRows} rows"
  | .misplaced h j e =>
    s!"cell for header {Text.quote h} arrived in column {j} ({Text.quote e})"
  | .overflow => "attempt to add with overflow"
  | .file f => s!"xlsx sink: {f.message}"

/-! ## State -/

/-- The worksheet that takes rows. -/
structure OpenSheet where
  /-- The number of worksheets opened before. -/
  position : Nat
  report : SheetReport
  headers : List String := []
  /-- The widest text of each column so far. -/
  widths : List Nat := []
  /-- The number of rows measured. -/
  measured : Nat := 0
  hasHeader : Bool := false
deriving DecidableEq, Repr

/-- A workbook that is being filled. -/
structure WorkbookSink where
  /-- Where the workbook is saved. -/
  path : String
  options : SinkOptions
  /-- Whether sums are checked.  The program is built either way: a sum of widths that is greater
  than a machine word stops it, or wraps around. -/
  checked : Bool := false
  book : Workbook := {}
  /-- The names given so far, in lower case. -/
  taken : Scope Unit := .empty
  /-- The number of worksheets opened. -/
  opened : Nat := 0
  sheet : Option OpenSheet := none
  /-- The reports of finished worksheets. -/
  finished : List SheetReport := []
  closed : Bool := false

namespace WorkbookSink

/-- A step of the sink; what it changed stays also when it fails. -/
abbrev Step := EStateM SinkFault WorkbookSink

/-- **A sink for a file,** unless its policy leaves no width. -/
def make (path : String) (options : SinkOptions) (checked : Bool := false) :
    Except AutofitPolicy.Fault WorkbookSink := do
  options.autofit.validate
  return { path := path, options := options, checked := checked }

/-- The reports of all worksheets, the open one last. -/
def report (s : WorkbookSink) : List SheetReport :=
  s.finished ++ (s.sheet.map OpenSheet.report).toList

/-! ## Worksheets -/

/-- Sets the widths of the columns of a worksheet from one on, one after the other. -/
def fitColumns (position column : Nat) : List Nat → Step Unit
  | [] => pure ()
  | measured :: rest => do
    let s ← get
    let policy := s.options.autofit
    if s.checked && policy.overflows measured then throw .overflow
    if maxColumns ≤ column then throw (.file .noColumn)
    let width := policy.columnWidth measured
    set { s with book := s.book.update position (·.setWidth column width) }
    fitColumns position (column + 1) rest

/-- **Finishes the open worksheet.**  It is taken away before its columns get their widths, and its
report is kept after that; a step that fails in between loses it. -/
def finishSheet : Step Unit := do
  match (← get).sheet with
  | none => return
  | some sheet =>
    modify fun s => { s with sheet := none }
    let s ← get
    if s.options.autofit.enabled then
      if s.book.worksheets.length ≤ sheet.position then
        throw (.file (.noWorksheet sheet.position))
      fitColumns sheet.position 0 sheet.widths
    modify fun s => { s with finished := s.finished ++ [sheet.report] }

/-- The warning for a name that was changed. -/
def renameWarning (name final : String) : String :=
  s!"sheet name {Text.quote name} was written as {Text.quote final}"

/-- **Finishes the open worksheet and opens another one.**  Gives the name under which it is
written. -/
def beginSheet (name : String) : Step String := do
  if (← get).closed then throw .closed
  finishSheet
  let s ← get
  let (final, taken) := SheetName.unique s.taken (SheetName.clean s.options.replacement name)
  let added := s.book.worksheets.length
  set { s with book := s.book.add, taken := taken }
  match SheetName.check final with
  | .error f => throw (.file (.sheetName f))
  | .ok () =>
    modify fun s =>
      { s with
        book := s.book.update added fun w => { w with name := final }
        opened := s.opened + 1
        sheet := some
          { position := s.opened
            report :=
              { name := final
                warnings := if final = name then [] else [renameWarning name final] } } }
    return final

/-- The open worksheet; an ordinary one is opened if there is none. -/
def openSheet : Step OpenSheet := do
  match (← get).sheet with
  | some sheet => return sheet
  | none =>
    let name := (← get).options.defaultSheet
    discard (beginSheet name)
    match (← get).sheet with
    | some sheet => return sheet
    | none => throw .closed

/-! ## Rows -/

/-- Writes the texts of a row as far as they fit, and says how many do. -/
def putTexts (sheet : OpenSheet) (row : Nat) (bold : Bool) (texts : List String) : Step Nat := do
  let fitting := texts.takeWhile Workbook.fits
  modify fun s => { s with book := s.book.update sheet.position (·.writeRow row 0 bold fitting) }
  return fitting.length

/-- **Writes the headers of the open worksheet.** -/
def putHeader (headers : List String) : Step Unit := do
  if (← get).closed then throw .closed
  if maxColumns < headers.length then throw (.tooManyColumns headers.length)
  match checkHeaders headers with
  | .error f => throw (.sharedColumns f)
  | .ok () => pure ()
  let sheet ← openSheet
  if sheet.hasHeader then throw (.secondHeader sheet.report.name)
  let options := (← get).options
  let written ← putTexts sheet 0 options.boldHeader headers
  if written < headers.length then throw (.file .textTooLong)
  modify fun s =>
    { s with
      book :=
        if options.freezeHeader then
          s.book.update sheet.position fun w => { w with frozen := true }
        else s.book
      sheet := some
        { sheet with
          headers := headers
          widths := headers.map TextWidth.measure
          report := { sheet.report with columns := headers.length }
          hasHeader := true } }

/-- The first cell of a row, from a column on, that is not under its header. -/
def checkOrder (column : Nat) : List Cell → List String → Except SinkFault Unit
  | c :: cs, h :: hs =>
    if c.header = h then checkOrder (column + 1) cs hs
    else .error (.misplaced c.header column h)
  | _, _ => .ok ()

/-- The widest texts of the columns after the texts of a row, as far as they go. -/
def widen : List Nat → List String → List Nat
  | w :: ws, t :: ts => max w (TextWidth.measure t) :: widen ws ts
  | ws, _ => ws

/-- **Writes a data row to the open worksheet.** -/
def putRow (cells : List Cell) : Step Unit := do
  if (← get).closed then throw .closed
  let policy := (← get).options.autofit
  let sheet ← openSheet
  if !sheet.hasHeader then throw (.rowBeforeHeader sheet.report.name)
  if cells.length ≠ sheet.headers.length then
    throw (.cellCount cells.length sheet.headers.length)
  let row := sheet.report.rows + 1
  if maxRows ≤ row then throw (.full sheet.report.name)
  match checkOrder 0 cells sheet.headers with
  | .error f => throw f
  | .ok () => pure ()
  let measures := policy.measures sheet.measured
  let texts := cells.map fun c => c.text.getD ""
  let written ← putTexts sheet row false texts
  let widths := if measures then widen sheet.widths (texts.take written) else sheet.widths
  modify fun s => { s with sheet := some { sheet with widths := widths } }
  if written < texts.length then throw (.file .textTooLong)
  modify fun s =>
    { s with
      sheet := some
        { sheet with
          widths := widths
          measured := if measures then sheet.measured + 1 else sheet.measured
          report := { sheet.report with rows := row } } }

instance : RowSink WorkbookSink where
  writeHeader headers := EStateM.adaptExcept SinkFault.message (putHeader headers)
  writeRow cells := EStateM.adaptExcept SinkFault.message (putRow cells)

/-! ## The file -/

/-- What keeps the workbook from being saved, when the file system says what keeps it from writing
the file. -/
def saveFault? (s : WorkbookSink) (system : Option String) : Option SaveFault :=
  match system with
  | some text => some (.system text)
  | none => (Workbook.reusedName? [] s.book.saved).map .nameReused

/-- **Finishes the open worksheet and saves the workbook,** unless that is done already.  Saving it
ends with the given fault or without one. -/
def close (fault : Option SaveFault) : Step Unit := do
  if !(← get).closed then
    finishSheet
    match fault with
    | some f => throw (.file (.unsaved f))
    | none => modify fun s => { s with closed := true }

/-- The worksheets of the saved file, if there is one. -/
def saved? (s : WorkbookSink) : Option (List Worksheet) :=
  if s.closed then some s.book.saved else none

end WorkbookSink

end RecordSheet
