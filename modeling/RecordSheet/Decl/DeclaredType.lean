import RecordSheet.Decl.ScalarType

/-!
# Decl/DeclaredType — types as attributes and parameters declare them

A declared type is a scalar, an array, a generic type with arguments, a type variable with bounds,
or a wildcard.  Two declared types are equal when they are written alike, so an array and a generic
array of the same elements differ.
-/

namespace RecordSheet

/-- A generic type without its arguments. -/
inductive RawType where
  /-- A sequence of elements of its first argument. -/
  | sequence (name : String)
  /-- Any other class. -/
  | scalar (t : ScalarType)
deriving DecidableEq, Repr

namespace RawType

/-- The name of the type. -/
def name : RawType → String
  | .sequence n => n
  | .scalar t => t.name

end RawType

/-- A type as it is declared. -/
inductive DeclaredType where
  | scalar (t : ScalarType)
  | array (element : DeclaredType)
  | genericArray (element : DeclaredType)
  | generic (raw : RawType) (arguments : List DeclaredType)
  | variable (name : String) (bounds : List DeclaredType)
  | wildcard (lower : Option DeclaredType) (upper : List DeclaredType)
deriving Inhabited

namespace DeclaredType

/-! ## Equality -/

mutual

/-- Decides whether two declared types are written alike. -/
def decEq : (s t : DeclaredType) → Decidable (s = t)
  | .scalar s, t =>
    match t with
    | .scalar t => decidable_of_iff (s = t) (by simp)
    | .array _ | .genericArray _ | .generic _ _ | .variable _ _ | .wildcard _ _ =>
      isFalse (by simp)
  | .array s, t =>
    match t with
    | .array t =>
      have := decEq s t
      decidable_of_iff (s = t) (by simp)
    | .scalar _ | .genericArray _ | .generic _ _ | .variable _ _ | .wildcard _ _ =>
      isFalse (by simp)
  | .genericArray s, t =>
    match t with
    | .genericArray t =>
      have := decEq s t
      decidable_of_iff (s = t) (by simp)
    | .scalar _ | .array _ | .generic _ _ | .variable _ _ | .wildcard _ _ =>
      isFalse (by simp)
  | .generic r ss, t =>
    match t with
    | .generic q ts =>
      have := decEqList ss ts
      decidable_of_iff (r = q ∧ ss = ts) (by simp)
    | .scalar _ | .array _ | .genericArray _ | .variable _ _ | .wildcard _ _ =>
      isFalse (by simp)
  | .variable m ss, t =>
    match t with
    | .variable n ts =>
      have := decEqList ss ts
      decidable_of_iff (m = n ∧ ss = ts) (by simp)
    | .scalar _ | .array _ | .genericArray _ | .generic _ _ | .wildcard _ _ =>
      isFalse (by simp)
  | .wildcard l ss, t =>
    match t with
    | .wildcard k ts =>
      have := decEqOption l k
      have := decEqList ss ts
      decidable_of_iff (l = k ∧ ss = ts) (by simp)
    | .scalar _ | .array _ | .genericArray _ | .generic _ _ | .variable _ _ =>
      isFalse (by simp)

/-- Decides whether two lists of declared types are written alike. -/
def decEqList : (ss ts : List DeclaredType) → Decidable (ss = ts)
  | [], [] => isTrue rfl
  | [], _ :: _ => isFalse (by simp)
  | _ :: _, [] => isFalse (by simp)
  | s :: ss, t :: ts =>
    have := decEq s t
    have := decEqList ss ts
    decidable_of_iff (s = t ∧ ss = ts) (by simp)

/-- Decides whether two optional declared types are written alike. -/
def decEqOption : (s t : Option DeclaredType) → Decidable (s = t)
  | none, none => isTrue rfl
  | none, some _ => isFalse (by simp)
  | some _, none => isFalse (by simp)
  | some s, some t =>
    have := decEq s t
    decidable_of_iff (s = t) (by simp)

end

instance : DecidableEq DeclaredType := decEq

/-! ## Construction -/

/-- A sequence type of one argument. -/
def sequence (name : String) (element : DeclaredType) : DeclaredType :=
  .generic (.sequence name) [element]

/-- A list type. -/
def list (element : DeclaredType) : DeclaredType :=
  sequence "List" element

/-- A set type. -/
def set (element : DeclaredType) : DeclaredType :=
  sequence "Set" element

/-- The name of the type that bounds everything. -/
def topName : String := "Object"

/-- The type that bounds everything. -/
def top : DeclaredType :=
  .scalar (.named topName)

/-- The scalar type, when the declaration is one. -/
def scalar? : DeclaredType → Option ScalarType
  | .scalar t => some t
  | _ => none

/-! ## Text -/

mutual

/-- **The declaration as text.** -/
def toText : DeclaredType → String
  | .scalar t => t.name
  | .array e => e.toText ++ "[]"
  | .genericArray e => e.toText ++ "[]"
  | .generic r args => r.name ++ "<" ++ String.intercalate ", " (listText args) ++ ">"
  | .variable n _ => n
  | .wildcard (some l) _ => "? super " ++ l.toText
  | .wildcard none [] => "?"
  | .wildcard none (u :: _) =>
    if u.scalar?.map ScalarType.name = some topName then "?" else "? extends " ++ u.toText

/-- The texts of several declarations. -/
def listText : List DeclaredType → List String
  | [] => []
  | t :: ts => t.toText :: listText ts

end

end DeclaredType

end RecordSheet
