import RecordSheet.Handler.Basic
import RecordSheet.Scope
import RecordSheet.Sequence.Codec

/-!
# Mapping/Options — choices that hold for a whole run

The options say whether accessors are preferred to fields, which fallback texts a run supplies, how
sequences are written, and what evaluates expressions, if anything does.
-/

namespace RecordSheet

/-- What reaches the value of an attribute. -/
inductive Access where
  | field
  /-- An accessor of the attribute's type, where there is one. -/
  | accessor
deriving DecidableEq, Repr, Inhabited

/-- Evaluates an expression in a scope; what goes wrong is a text. -/
abbrev Evaluator := String → Scope Value → Except String Value

/-- The choices of a run. -/
structure Options where
  access : Access := .field
  /-- The fallback texts of attributes that declare none. -/
  fallback : Option (Descriptor → Option String) := none
  codec : SequenceCodec := {}
  evaluator : Option Evaluator := none

instance : Inhabited Options := ⟨{}⟩

end RecordSheet
