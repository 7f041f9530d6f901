import RecordSheet.Handler.Registry
import RecordSheet.Mapping.Options
import RecordSheet.Record.Schema

/-!
# Mapping/Plan — what is done with an attribute in one direction

A plan is made once for each attribute and direction, before any row.  It holds the shape of the
declared type, the handler of the scalar under it, the fallback text, the checks, the expression if
there is one, and flags for the way of conversion and access.  A plan together with a getter is a
column to write, and with a setter, if there is one, a column to read.
-/

namespace RecordSheet

variable {ρ : Type}

/-! ## Fallback texts -/

/-- Where a fallback text comes from. -/
inductive FallbackSource where
  | record
  | attribute
  | run
deriving DecidableEq, Repr

/-- The text read from a blank cell. -/
structure Fallback where
  text : String
  source : FallbackSource
deriving DecidableEq, Repr

/-- **The fallback of an attribute:** its own, else that of its record type, else that of the run.
-/
def Options.resolveFallback (o : Options) (d : Descriptor) (own inherited : Option String) :
    Option Fallback :=
  match own, inherited with
  | some s, _ => some ⟨s, .attribute⟩
  | none, some s => some ⟨s, .record⟩
  | none, none => (o.fallback.bind fun f => f d).map fun s => ⟨s, .run⟩

/-! ## Plans -/

/-- What is done with an attribute in one direction. -/
structure Plan where
  descriptor : Descriptor
  direction : Direction
  flags : Flags
  fallback : Option Fallback
  /-- The handler of the scalar type under all containers, if there is one. -/
  handler : Option Handler
  validators : List Validator
  shape : Shape
  /-- The pattern given to the handler. -/
  format : Option String
  /-- The expression of the direction. -/
  expression : Option String
  header : String

namespace Plan

/-- What the handler is told about the cell. -/
def context (p : Plan) : HandlerContext where
  descriptor := p.descriptor
  element := p.shape.leaf
  format := p.format

/-- Whether the plan converts by an expression. -/
def usesExpression (p : Plan) : Bool :=
  p.flags.expression

/-- Whether the plan converts by a handler. -/
def usesHandler (p : Plan) : Bool :=
  p.flags.handler

end Plan

/-- The expression of an attribute in a direction. -/
def Attribute.expression (a : Attribute ρ) : Direction → Option String
  | .read => a.settings.readExpression
  | .write => a.settings.writeExpression

/-- The accessor to use for an attribute of the given type: accessors are asked for, and this one is
visible and of exactly that type. -/
def Options.conforming? {φ : Type} (o : Options) (type : DeclaredType)
    (accessor : Option (Accessor φ)) : Option (Accessor φ) :=
  accessor.filter fun a => o.access = .accessor && a.visible && a.type = type

/-- What reaches the value of an attribute of the given type: the accessor to use, or else the
field. -/
def Options.reach? {φ : Type} (o : Options) (type : DeclaredType) (accessor : Option (Accessor φ))
    (field : Option φ) : Option φ :=
  ((o.conforming? type accessor).map Accessor.run).or field

/-- The plan of an attribute of a known shape whose value is reached in a known way. -/
def Attribute.planOf (a : Attribute ρ) (d : Descriptor) (inherited : Option String)
    (registry : Registry) (o : Options) (direction : Direction) (accessor : Bool) (shape : Shape) :
    Plan where
  descriptor := d
  direction := direction
  flags := {
    handler := (a.expression direction).isNone
    expression := (a.expression direction).isSome
    field := !accessor
    accessor := accessor }
  fallback := o.resolveFallback d a.settings.fallback inherited
  handler := registry.get? shape.leaf
  validators := a.settings.validators
  shape := shape
  format := a.settings.format
  expression := a.expression direction
  header := a.header

/-- **The plan of an attribute.**  Its type has a shape, and its expression can be evaluated. -/
def Attribute.plan (a : Attribute ρ) (d : Descriptor) (inherited : Option String)
    (registry : Registry) (o : Options) (direction : Direction) (accessor : Bool) :
    Except SetupFault Plan := do
  let shape ← d.type.shape.mapError .shape
  if (a.expression direction).isSome && o.evaluator.isNone then
    throw (.noEvaluator d.name d.declaringType)
  return a.planOf d inherited registry o direction accessor shape

/-! ## Columns -/

/-- An attribute to be written.  It always has a getter: an attribute without one is refused when it
is planned (`Attribute.writeColumn`), so that none can be missing when a record is written. -/
structure WriteColumn (ρ : Type) where
  plan : Plan
  get : Getter ρ

/-- An attribute to be read. -/
structure ReadColumn (ρ : Type) where
  plan : Plan
  set : Option (Setter ρ)

/-- The column to write an attribute to. -/
def Attribute.writeColumn (a : Attribute ρ) (d : Descriptor) (inherited : Option String)
    (registry : Registry) (o : Options) : Except SetupFault (WriteColumn ρ) := do
  let plan ← a.plan d inherited registry o .write (o.conforming? d.type a.accessorGet).isSome
  match o.reach? d.type a.accessorGet a.fieldGet with
  | some get => return ⟨plan, get⟩
  | none => throw (.unreadable d.name d.declaringType)

/-- The column to read an attribute from. -/
def Attribute.readColumn (a : Attribute ρ) (d : Descriptor) (inherited : Option String)
    (registry : Registry) (o : Options) : Except SetupFault (ReadColumn ρ) := do
  let plan ← a.plan d inherited registry o .read (o.conforming? d.type a.accessorSet).isSome
  return ⟨plan, o.reach? d.type a.accessorSet a.fieldSet⟩

namespace Schema

/-- **The columns to write,** one for each attribute in order. -/
def writeColumns (s : Schema ρ) (registry : Registry) (o : Options) :
    Except SetupFault (List (WriteColumn ρ)) :=
  s.described.mapM fun (a, d) => a.writeColumn d s.fallback registry o

/-- **The columns to read,** one for each attribute in order. -/
def readColumns (s : Schema ρ) (registry : Registry) (o : Options) :
    Except SetupFault (List (ReadColumn ρ)) :=
  s.described.mapM fun (a, d) => a.readColumn d s.fallback registry o

end Schema

end RecordSheet
