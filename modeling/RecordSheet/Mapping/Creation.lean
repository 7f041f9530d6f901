import RecordSheet.Record.Schema

/-!
# Mapping/Creation — which creator makes the records, and from which attributes

`Schema.creation` chooses the marked creator, or else the first constructor without parameters, and
binds each of its parameters to one attribute of exactly the parameter's type.  A type that only one
parameter and one attribute have binds them; otherwise the parameter's name does.
-/

namespace RecordSheet

variable {ρ : Type}

/-- How a parameter found its attribute. -/
inductive BindingMode where
  | byType
  | byName
deriving DecidableEq, Repr

/-- A parameter bound to an attribute. -/
structure ParameterBinding where
  parameter : Parameter
  /-- The position of the parameter. -/
  index : Nat
  source : Descriptor
  mode : BindingMode
deriving DecidableEq

/-- The chosen creator with its bound parameters, in order. -/
structure Creation (ρ : Type) where
  creator : Creator ρ
  bindings : List ParameterBinding

namespace Schema

/-- **The creator to use.** -/
def selectCreator (s : Schema ρ) : Except SetupFault (Creator ρ) :=
  let factories := s.creators.filter fun c => c.marked && c.isFactory
  let constructors := s.creators.filter fun c => c.marked && !c.isFactory
  match factories, constructors with
  | [c], [] => .ok c
  | [], [c] => .ok c
  | [], [] =>
    match s.creators.find? fun c => !c.isFactory && c.parameters.isEmpty with
    | some c => .ok c
    | none => .error (.noCreator s.name)
  | f :: _, c :: _ => .error (.factoryAndConstructor s.name f.name c.name)
  | fs, cs => .error (.severalCreators s.name ((fs ++ cs).map Creator.name))

/-- The attribute that a parameter of a creator takes its value from. -/
def parameterSource (s : Schema ρ) (c : Creator ρ) (p : Parameter) (index : Nat) :
    Except SetupFault (Descriptor × BindingMode) :=
  let sameType := s.descriptors.filter fun d => d.type = p.type
  match sameType, c.parameters.filter fun q => q.type = p.type with
  | [], _ =>
    .error (.undeclaredType index (p.name.getD "<unnamed>") c.name s.name p.type)
  | [d], [_] => .ok (d, .byType)
  | _, _ =>
    match p.name with
    | none => .error (.unnamedParameter index c.name s.name p.type)
    | some n =>
      match sameType.filter fun d => d.name = n with
      | [d] => .ok (d, .byName)
      | _ => .error (.unmatchedParameter n c.name s.name p.type)

/-- Binds parameters with their positions in order, none to an attribute in `bound`. -/
def bindParameters (s : Schema ρ) (c : Creator ρ) (bound : List Nat) :
    List (Parameter × Nat) → Except SetupFault (List ParameterBinding)
  | [] => .ok []
  | (p, i) :: rest => do
    let (d, mode) ← s.parameterSource c p i
    if d.index ∈ bound then throw (.boundTwice d.name s.name c.name)
    let bindings ← bindParameters s c (d.index :: bound) rest
    return ⟨p, i, d, mode⟩ :: bindings

/-- **The creator to use with its parameters bound.** -/
def creation (s : Schema ρ) : Except SetupFault (Creation ρ) := do
  let c ← s.selectCreator
  let bindings ← s.bindParameters c [] c.parameters.zipIdx
  return ⟨c, bindings⟩

end Schema

/-- Why no record is made. -/
inductive CreationFault where
  | noValue (name : String)
  | refused (message : String)
deriving DecidableEq, Repr

/-- The text of a fault. -/
def CreationFault.message : CreationFault → String
  | .noValue n => s!"no decoded value for `{n}`"
  | .refused m => m

namespace Creation

/-- Whether an attribute gives its value to the creator. -/
def isBound (c : Creation ρ) (index : Nat) : Bool :=
  c.bindings.any fun b => b.source.index == index

/-- The values of the bound attributes, in the order of the parameters. -/
def arguments (c : Creation ρ) (values : List Value) : Except CreationFault (List Value) :=
  c.bindings.mapM fun b =>
    match values[b.source.index]? with
    | some v => .ok v
    | none => .error (.noValue b.source.name)

/-- **Makes a record from the values of all attributes.** -/
def create (c : Creation ρ) (values : List Value) : Except CreationFault ρ := do
  let vs ← c.arguments values
  (c.creator.run (.ofList vs)).mapError .refused

end Creation

end RecordSheet
