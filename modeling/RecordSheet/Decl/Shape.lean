import RecordSheet.Decl.DeclaredType

/-!
# Decl/Shape — what a declared type comes down to

A shape is a scalar type under any number of container levels.  `DeclaredType.layer` removes the
type variables and wildcards from the outside of a declared type — each stands for its first bound,
the lower one of a wildcard before the upper ones — and says what its outermost level is;
`DeclaredType.shape` does so level by level, keeps the levels that it goes through, and puts them
around the scalar type that it ends at.  Both give up after 64 steps, which no sound declaration
needs.
-/

namespace RecordSheet

/-- A scalar under container levels. -/
inductive Shape where
  | scalar (t : ScalarType)
  | array (element : Shape)
  | iterable (element : Shape)
deriving DecidableEq, Repr, Inhabited

namespace Shape

/-- The shape one level down, if there is one. -/
def element? : Shape → Option Shape
  | .scalar _ => none
  | .array s => some s
  | .iterable s => some s

/-- The scalar type under all levels. -/
def leaf : Shape → ScalarType
  | .scalar t => t
  | .array s => s.leaf
  | .iterable s => s.leaf

/-- The number of container levels. -/
def depth : Shape → Nat
  | .scalar _ => 0
  | .array s => s.depth + 1
  | .iterable s => s.depth + 1

/-- Whether the outermost level is a container. -/
def isContainer : Shape → Bool
  | .scalar _ => false
  | _ => true

end Shape

/-- A container level. -/
inductive Level where
  | array
  | iterable
deriving DecidableEq, Repr

/-- The shape of a container with elements of the given shape. -/
def Level.around : Level → Shape → Shape
  | .array, s => .array s
  | .iterable, s => .iterable s

/-- The outermost level of a declared type, with the type one level down; a scalar is its own. -/
inductive Layer where
  | scalar (t : DeclaredType)
  | array (element : DeclaredType)
  | iterable (element : DeclaredType)
deriving DecidableEq

namespace Layer

/-- The type one level down. -/
def element : Layer → DeclaredType
  | .scalar t => t
  | .array e => e
  | .iterable e => e

end Layer

/-- The number of steps after which a declared type is given up. -/
def maxSteps : Nat := 64

/-- Why a declared type has no shape. -/
inductive ShapeFault where
  | noElement (sequence : String)
  | unresolved (type : DeclaredType)
  | tooDeep (type : DeclaredType)
  /-- The outermost level is said to be a scalar, and is none. -/
  | notScalar (type : DeclaredType)
deriving DecidableEq

/-- The text of a fault. -/
def ShapeFault.message : ShapeFault → String
  | .noElement n => s!"Sequence type `{n}` declares no element type."
  | .unresolved t =>
    s!"Type `{t.toText}` did not resolve within {maxSteps} steps; check for cyclic bounds."
  | .tooDeep t => s!"Type `{t.toText}` nests deeper than {maxSteps} levels."
  | .notScalar t => s!"Concrete classification of `{t.toText}` is not a class."

namespace DeclaredType

/-- The outermost level of the type `t`, which stands inside of `whole`, in at most the given number
of steps. -/
def layerWithin (whole : DeclaredType) : Nat → DeclaredType → Except ShapeFault Layer
  | 0, _ => .error (.unresolved whole)
  | n + 1, t =>
    match t with
    | .scalar k => .ok (.scalar (.scalar k))
    | .array e => .ok (.array e)
    | .genericArray e => .ok (.array e)
    | .generic (.sequence _) (e :: _) => .ok (.iterable e)
    | .generic (.sequence name) [] => .error (.noElement name)
    | .generic (.scalar k) _ => .ok (.scalar (.scalar k))
    | .variable _ bounds => layerWithin whole n (bounds.headD top)
    | .wildcard (some lower) _ => layerWithin whole n lower
    | .wildcard none upper => layerWithin whole n (upper.headD top)

/-- **The outermost level of a declared type.** -/
def layer (t : DeclaredType) : Except ShapeFault Layer :=
  layerWithin t maxSteps t

/-- Goes down from the type `t`, which stands inside of `whole` under the given levels, in at most
the given number of levels.  The levels are put around the scalar type from the innermost one on. -/
def descend (whole : DeclaredType) : Nat → List Level → DeclaredType → Except ShapeFault Shape
  | 0, _, _ => .error (.tooDeep whole)
  | n + 1, levels, t =>
    match t.layer with
    | .error e => .error e
    | .ok (.scalar e) =>
      match e.scalar? with
      | some k => .ok (levels.reverse.foldl (fun inner level => level.around inner) (.scalar k))
      | none => .error (.notScalar t)
    | .ok (.array e) => descend whole n (levels ++ [.array]) e
    | .ok (.iterable e) => descend whole n (levels ++ [.iterable]) e

/-- **The shape of a declared type.** -/
def shape (t : DeclaredType) : Except ShapeFault Shape :=
  descend t maxSteps [] t

/-- The scalar type under all levels of a declared type. -/
def concrete (t : DeclaredType) : Except ShapeFault ScalarType :=
  Shape.leaf <$> t.shape

end DeclaredType

end RecordSheet
