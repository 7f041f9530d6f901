import RecordSheet.Record.Validator
import RecordSheet.Value

/-!
# Record/Attribute — the mapped attributes of a record type

An attribute has a name, a declared type, ways to read and to assign its value in a record, and
settings for its column.  The value is reached through a field or through an accessor; an accessor
has a declared type of its own.
-/

namespace RecordSheet

/-- Reads the value of an attribute. -/
abbrev Getter (ρ : Type) := ρ → Value

/-- Assigns a value to an attribute; what goes wrong is a text. -/
abbrev Setter (ρ : Type) := ρ → Value → Except String ρ

/-- A way to reach a value that has a declared type. -/
structure Accessor (φ : Type) where
  type : DeclaredType
  visible : Bool
  run : φ

/-- The settings of an attribute's column. -/
structure ColumnSettings where
  /-- The header, if it is not the attribute's name. -/
  header : Option String := none
  /-- The text read from a blank cell. -/
  fallback : Option String := none
  /-- The pattern given to handlers. -/
  format : Option String := none
  /-- The checks of a cell's text, in order. -/
  validators : List Validator := []
  /-- The expression that gives the value on reading. -/
  readExpression : Option String := none
  /-- The expression that gives the cell on writing. -/
  writeExpression : Option String := none
  /-- The choices shown by a sheet; conversion does not look at them. -/
  choices : Option (List String) := none

/-- A mapped attribute of the record type `ρ`. -/
structure Attribute (ρ : Type) where
  name : String
  type : DeclaredType
  fieldGet : Option (Getter ρ) := none
  fieldSet : Option (Setter ρ) := none
  accessorGet : Option (Accessor (Getter ρ)) := none
  accessorSet : Option (Accessor (Setter ρ)) := none
  settings : ColumnSettings := {}

namespace Attribute

variable {ρ : Type}

/-- The header of the attribute's column. -/
def header (a : Attribute ρ) : String :=
  a.settings.header.getD a.name

end Attribute

end RecordSheet
