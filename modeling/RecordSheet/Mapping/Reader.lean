import RecordSheet.Mapping.Creation
import RecordSheet.Mapping.Route

/-!
# Mapping/Reader — rows become records

A reader holds the columns of a schema, planned once, and the creator of its records.  A row becomes
a record in three steps: every attribute is converted, the creator gets the values it is bound to,
and the other values are assigned in order.
-/

namespace RecordSheet

variable {ρ : Type}

/-- Reads the records of a schema. -/
structure Reader (ρ : Type) where
  schema : Schema ρ
  columns : List (ReadColumn ρ)
  creation : Creation ρ
  options : Options

namespace Reader

/-- The first column whose value has nowhere to go. -/
def checkAssignable (record : String) (c : Creation ρ) :
    List (ReadColumn ρ × Nat) → Except SetupFault Unit
  | [] => .ok ()
  | (column, i) :: rest =>
    if !c.isBound i && column.set.isNone then
      .error (.unassignable column.plan.descriptor.name record)
    else checkAssignable record c rest

/-- **Plans the columns of a schema and chooses its creator.**  Every attribute goes to the creator
or has a setter. -/
def make (s : Schema ρ) (registry : Registry) (o : Options) : Except SetupFault (Reader ρ) := do
  o.codec.validate.mapError .codec
  let columns ← s.readColumns registry o
  let creation ← s.creation
  checkAssignable s.name creation columns.zipIdx
  return ⟨s, columns, creation, o⟩

/-- The headers in the order of the columns. -/
def headers (r : Reader ρ) : List String :=
  r.columns.map fun c => c.plan.header

/-- The names of the attributes under their headers. -/
def namesByHeader (r : Reader ρ) : Scope String :=
  .ofList (r.columns.map fun c => (c.plan.header, c.plan.descriptor.name))

/-- **A row keyed by headers, keyed by the names of the attributes.**  Other columns are dropped. -/
def rekey (r : Reader ρ) (row : Scope String) : Scope String :=
  .ofList (row.entries.filterMap fun e => (r.namesByHeader.get? e.1).map fun name => (name, e.2))

/-- The values of all attributes in a row keyed by their names. -/
def values (r : Reader ρ) (row : Scope String) : Except Failure (List Value) :=
  r.columns.mapM fun c => c.plan.read r.options row

/-- Makes a record from the values of all attributes. -/
def create (r : Reader ρ) (values : List Value) : Except Failure ρ :=
  (r.creation.create values).mapError fun f =>
    .conversion r.creation.creator.name r.schema.name "" f.message

/-- Assigns a value to its attribute, unless the creator took it. -/
def assign (r : Reader ρ) (row : Scope String) (record : ρ) (column : ReadColumn ρ) (v : Value)
    (index : Nat) : Except Failure ρ :=
  if r.creation.isBound index then .ok record
  else
    match column.set with
    | none => .ok record
    | some set => (set record v).mapError (column.plan.failure (column.plan.cellText row))

/-- Assigns the values of the columns from position `index` on. -/
def assignAll (r : Reader ρ) (row : Scope String) (record : ρ) (index : Nat) :
    List (ReadColumn ρ × Value) → Except Failure ρ
  | [] => .ok record
  | (column, v) :: rest => do
    let record ← r.assign row record column v index
    assignAll r row record (index + 1) rest

/-- **The record of a row keyed by the names of the attributes.** -/
def convert (r : Reader ρ) (row : Scope String) : Except Failure ρ := do
  let values ← r.values row
  let record ← r.create values
  r.assignAll row record 0 (r.columns.zip values)

end Reader

end RecordSheet
