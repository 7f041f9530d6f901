import RecordSheet.Inspect.Mapping
import RecordSheet.Mapping.Reader
import RecordSheet.Mapping.Writer
import RecordSheet.Proofs.Calendar.Printed
import RecordSheet.Proofs.Decl.Path
import RecordSheet.Proofs.Field.Content
import RecordSheet.Proofs.Handler.Domain
import RecordSheet.Proofs.Handler.Integers
import RecordSheet.Proofs.Handler.Rereading
import RecordSheet.Proofs.Handler.Typing
import RecordSheet.Proofs.Mapping.CellText
import RecordSheet.Proofs.Mapping.Columns
import RecordSheet.Proofs.Mapping.Creation
import RecordSheet.Proofs.Mapping.Delivery
import RecordSheet.Proofs.Mapping.Determination
import RecordSheet.Proofs.Mapping.Failures
import RecordSheet.Proofs.Mapping.Fallback
import RecordSheet.Proofs.Mapping.Planning
import RecordSheet.Proofs.Mapping.Rewriting
import RecordSheet.Proofs.Mapping.RoundTrip
import RecordSheet.Proofs.Mapping.Route
import RecordSheet.Proofs.Mapping.Rows
import RecordSheet.Proofs.Mapping.Stopping
import RecordSheet.Proofs.Mapping.Typing
import RecordSheet.Proofs.Mapping.Unserved
import RecordSheet.Proofs.Mapping.Validation
import RecordSheet.Proofs.Scope
import RecordSheet.Proofs.Sequence.Borders
import RecordSheet.Proofs.Sequence.Split
import RecordSheet.Proofs.Sequence.Tokens
import RecordSheet.Proofs.Sheet.Memory
import RecordSheet.Proofs.Workbook.Calls
import RecordSheet.Proofs.Workbook.Events
import RecordSheet.Proofs.Workbook.FreeName
import RecordSheet.Proofs.Workbook.Grid
import RecordSheet.Proofs.Workbook.Landing
import RecordSheet.Proofs.Workbook.Naming
import RecordSheet.Proofs.Workbook.Records
import RecordSheet.Proofs.Workbook.Refusal
import RecordSheet.Proofs.Workbook.Reporting
import RecordSheet.Proofs.Workbook.SheetName
import RecordSheet.Record.Slots
import RecordSheet.Sheet.Memory
import RecordSheet.Workbook.Sink
import RecordSheet.Proofs.Workbook.Fitting
import RecordSheet.Proofs.Workbook.FailedCalls
import RecordSheet.Proofs.Mapping.Trimming
import RecordSheet.Proofs.Number.Nearness
import RecordSheet.Proofs.Handler.Exactness
import RecordSheet.Proofs.Sequence.Partner
import RecordSheet.Proofs.Sheet.History
import RecordSheet.Proofs.Handler.Registration
import RecordSheet.Proofs.Mapping.Evaluation
