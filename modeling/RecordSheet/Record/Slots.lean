import RecordSheet.Record.Attribute
import RecordSheet.Record.Creator
import RecordSheet.Scope

/-!
# Record/Slots — records made of named slots

A slot record holds values under names; a slot that was never filled is absent.  Its attributes read
and fill slots, and its creators fill slots from their arguments.
-/

namespace RecordSheet

/-- A record of named slots. -/
abbrev SlotRecord := Scope Value

namespace SlotRecord

/-- Reads a slot. -/
def getter (slot : String) : Getter SlotRecord :=
  fun r => (r.get? slot).getD .null

/-- Fills a slot with a value of a field type. -/
def setter (slot : String) (type : FieldType) : Setter SlotRecord :=
  fun r v => (r.insert slot ·) <$> (type.accept v).mapError FieldFault.message

/-- Fills a slot with an argument. -/
structure Filling where
  argument : Nat
  type : FieldType
  slot : String
deriving DecidableEq, Repr

/-- Fills slots with arguments, in order. -/
def fill : List Filling → SlotRecord → Arguments → Except ArgumentFault SlotRecord
  | [], r, _ => .ok r
  | f :: fs, r, a =>
    match a.take f.argument f.type with
    | (.ok v, a) => fill fs (r.insert f.slot v) a
    | (.error e, _) => .error e

/-- The body of a creator that fills slots and then may refuse the record. -/
def create (fillings : List Filling) (refusal : Option String) (a : Arguments) :
    Except String SlotRecord :=
  match fill fillings .empty a with
  | .error e => .error e.message
  | .ok r =>
    match refusal with
    | some m => .error m
    | none => .ok r

end SlotRecord

end RecordSheet
