import RecordSheet.Record.Arguments

/-!
# Record/Creator — how records are made

A creator makes a record from arguments; it is a constructor or a factory of the record type.  A
record type may have several, and mark the one to use.
-/

namespace RecordSheet

/-- A parameter of a creator. -/
structure Parameter where
  name : Option String
  type : DeclaredType
  /-- Whether the name was declared and not inferred. -/
  explicit : Bool
deriving DecidableEq

/-- A constructor or factory of the record type `ρ`. -/
structure Creator (ρ : Type) where
  name : String
  isFactory : Bool
  marked : Bool
  parameters : List Parameter
  run : Arguments → Except String ρ

namespace Creator

variable {ρ : Type}

/-- A constructor without parameters that always makes the same record. -/
def constant (name : String) (record : ρ) : Creator ρ where
  name := name
  isFactory := false
  marked := false
  parameters := []
  run _ := .ok record

end Creator

end RecordSheet
