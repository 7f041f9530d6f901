import RecordSheet.Field

/-!
# Record/Arguments — the values given to a creator

A creator takes its arguments one by one, each as a value of a field type.  An argument that was
taken is gone, also when it did not fit the field type.
-/

namespace RecordSheet

/-- Why an argument cannot be taken. -/
inductive ArgumentFault where
  | missing (index : Nat)
  | field (index : Nat) (fault : FieldFault)
deriving DecidableEq, Repr

/-- The text of a fault. -/
def ArgumentFault.message : ArgumentFault → String
  | .missing i => s!"creator argument {i} is missing or already taken"
  | .field i f => s!"creator argument {i}: {f.message}"

/-- The arguments of a creator, in the order of its parameters; an argument that was taken leaves an
empty place. -/
structure Arguments where
  places : List (Option Value)
deriving DecidableEq

namespace Arguments

/-- Arguments of which none was taken. -/
def ofList (values : List Value) : Arguments :=
  ⟨values.map some⟩

/-- The number of arguments, taken or not. -/
def size (a : Arguments) : Nat :=
  a.places.length

/-- **Takes an argument as a value of a field type.** -/
def take (a : Arguments) (i : Nat) (type : FieldType) : Except ArgumentFault Value × Arguments :=
  match a.places[i]? with
  | some (some v) => ((type.accept v).mapError (.field i), ⟨a.places.set i none⟩)
  | _ => (.error (.missing i), a)

end Arguments

end RecordSheet
