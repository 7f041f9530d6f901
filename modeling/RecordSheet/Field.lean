import RecordSheet.Value

/-!
# Field — which values a typed field takes

A field of a record has a type; `FieldType.accept` says whether a value may be stored in it, and
what the field then holds.  Whole numbers are taken when they fit, floating-point fields take every
number, and containers take sequences whose elements are taken.
-/

namespace RecordSheet

open Number (Binary Format)

/-- The type of a field. -/
inductive FieldType where
  | signed (w : Width)
  | unsigned (w : Width)
  | float (w : FloatWidth)
  | bool
  | char
  | string
  | date
  | time
  | dateTime
  | uuid
  /-- A field that holds any value. -/
  | any
  | option (t : FieldType)
  | list (t : FieldType)
  /-- A set in the order of its elements. -/
  | orderedSet (t : FieldType)
  /-- A set in the order of its elements' texts. -/
  | unorderedSet (t : FieldType)
deriving DecidableEq, Repr

/-- Why a field does not take a value. -/
inductive FieldFault where
  | mismatch (expected kind : String)
  | outOfRange (n : Int) (type : String)
deriving DecidableEq, Repr

/-- The text of a fault. -/
def FieldFault.message : FieldFault → String
  | .mismatch e k => s!"expected {e}, got {k}"
  | .outOfRange n t => s!"{n} is out of range for {t}"

namespace FieldType

/-- The number of a whole-number value; an absent one is zero. -/
def wholeNumber (type : String) : Value → Except FieldFault Int
  | .null => .ok 0
  | .int n => .ok n.toInt
  | .uint n => .ok n.toNat
  | v => .error (.mismatch type v.kind)

/-- A number between the bounds of a type. -/
def inRange (type : String) (low high n : Int) : Except FieldFault Int :=
  if low ≤ n ∧ n ≤ high then .ok n else .error (.outOfRange n type)

/-- The floating-point number of a number; an absent one is zero. -/
def floatingNumber : Value → Except FieldFault Binary
  | .null => .ok (.zero .double false)
  | .float x => .ok x
  | .int n => .ok (.ofInt .double n.toInt)
  | .uint n => .ok (.ofInt .double n.toNat)
  | v => .error (.mismatch "f64" v.kind)

/-- The elements of a sequence; an absent one is empty. -/
def elements : Value → Except FieldFault (List Value)
  | .null => .ok []
  | .seq vs => .ok vs
  | v => .error (.mismatch "sequence" v.kind)

/-- Puts a value at its place in an ordered list, unless it is there. -/
def insertOrdered (v : Value) : List Value → List Value
  | [] => [v]
  | w :: ws =>
    match v.order w with
    | .lt => v :: w :: ws
    | .eq => w :: ws
    | .gt => w :: insertOrdered v ws

/-- The distinct values of a list, in order. -/
def distinct (vs : List Value) : List Value :=
  vs.foldl (fun ws v => insertOrdered v ws) []

/-- The values of a list in the order of their texts. -/
def sortByText (vs : List Value) : List Value :=
  vs.mergeSort fun v w => decide (v.toText ≤ w.toText)

/-- **What a field of the type holds after a value is assigned to it.** -/
def accept : FieldType → Value → Except FieldFault Value
  | .signed w, v => do
    let type := (ScalarType.signed w).name
    let n ← inRange type w.signedMin w.signedMax (← wholeNumber type v)
    return .int (Int64.ofInt n)
  | .unsigned w, v => do
    let type := (ScalarType.unsigned w).name
    let n ← inRange type 0 w.unsignedMax (← wholeNumber type v)
    return .uint (UInt64.ofNat n.toNat)
  | .float .double, v => .float <$> floatingNumber v
  | .float .single, v =>
    (fun x => .float ((x.convert .single).convert .double)) <$> floatingNumber v
  | .bool, v =>
    match v with
    | .null => .ok (.bool false)
    | .bool b => .ok (.bool b)
    | v => .error (.mismatch "bool" v.kind)
  | .char, v =>
    match v with
    | .null => .ok (.char (Char.ofNat 0))
    | .char c => .ok (.char c)
    | v => .error (.mismatch "char" v.kind)
  | .string, v =>
    match v with
    | .null => .ok (.str "")
    | .str s => .ok (.str s)
    | .enumeration s => .ok (.str s)
    | v => .error (.mismatch "string" v.kind)
  | .date, v =>
    match v with
    | .date d => .ok (.date d)
    | v => .error (.mismatch "NaiveDate" v.kind)
  | .time, v =>
    match v with
    | .time t => .ok (.time t)
    | v => .error (.mismatch "NaiveTime" v.kind)
  | .dateTime, v =>
    match v with
    | .dateTime t => .ok (.dateTime t)
    | v => .error (.mismatch "NaiveDateTime" v.kind)
  | .uuid, v =>
    match v with
    | .uuid u => .ok (.uuid u)
    | v => .error (.mismatch "Uuid" v.kind)
  | .any, v => .ok v
  | .option t, v => if v.isNull then .ok .null else t.accept v
  | .list t, v => do
    let vs ← (← elements v).mapM t.accept
    return .seq vs
  | .orderedSet t, v => do
    let vs ← (← elements v).mapM t.accept
    return .seq (distinct vs)
  | .unorderedSet t, v => do
    let vs ← (← elements v).mapM t.accept
    return .seq (sortByText (distinct vs))

end FieldType

end RecordSheet
