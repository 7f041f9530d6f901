/-!
# Workbook/ColumnWidth — how wide a column has to be

A text is as wide as its widest line; a character that takes three or more bytes counts twice.  A
policy says which texts of a column are measured and bounds its final width.  Widths are machine
words, and a policy may ask for a padding that makes their sum greater than that.
-/

namespace RecordSheet

/-! ## Texts -/

namespace TextWidth

/-- The parts of a text between line feeds. -/
def parts : List Char → List (List Char)
  | [] => [[]]
  | c :: cs =>
    if c = '\n' then [] :: parts cs
    else
      match parts cs with
      | [] => [[c]]
      | l :: ls => (c :: l) :: ls

/-- A line without the carriage return at its end. -/
def dropReturn (line : List Char) : List Char :=
  if line.getLast? = some '\r' then line.dropLast else line

/-- The lines of the parts of a text: a carriage return belongs to the line feed after it. -/
def lines : List (List Char) → List (List Char)
  | [] => []
  | [l] => [l]
  | l :: ls => dropReturn l :: lines ls

/-- The width of a character. -/
def ofChar (c : Char) : Nat :=
  if 3 ≤ c.utf8Size then 2 else 1

/-- The width of a line. -/
def ofLine (line : List Char) : Nat :=
  line.foldl (fun width c => width + ofChar c) 0

/-- **The width of a text.** -/
def measure (s : String) : Nat :=
  ((lines (parts s.toList)).map ofLine).foldl max 0

end TextWidth

/-! ## Columns -/

/-- How columns are fitted to their texts. -/
structure AutofitPolicy where
  enabled : Bool := true
  /-- Whether rows are measured, and not only headers. -/
  includeBody : Bool := true
  /-- The number of rows measured; all rows without one. -/
  bodyMax : Option Nat := some 20000
  minimum : Nat := 8
  maximum : Nat := 60
  /-- What is added to the widest text. -/
  padding : Nat := 2
deriving DecidableEq, Repr, Inhabited

namespace AutofitPolicy

/-- The greatest width a column may have. -/
def widthLimit : Nat := 255

/-- What is wrong with the bounds of a policy. -/
inductive Fault where
  | zeroMinimum
  | belowMinimum (maximum minimum : Nat)
  | aboveLimit (maximum : Nat)
deriving DecidableEq, Repr

/-- The text of a fault. -/
def Fault.message : Fault → String
  | .zeroMinimum => "autofit minimum width must be at least 1"
  | .belowMinimum n m => s!"autofit maximum width {n} is below the minimum {m}"
  | .aboveLimit n => s!"autofit maximum width {n} exceeds Excel's {widthLimit}"

/-- The bounds leave a width between one and the limit, or the first fault. -/
def validate (p : AutofitPolicy) : Except Fault Unit :=
  if p.minimum = 0 then .error .zeroMinimum
  else if p.maximum < p.minimum then .error (.belowMinimum p.maximum p.minimum)
  else if widthLimit < p.maximum then .error (.aboveLimit p.maximum)
  else .ok ()

/-- The number of machine words. -/
def wordCount : Nat := 18446744073709551616

/-- Whether the padding makes a measured width greater than a machine word. -/
def overflows (p : AutofitPolicy) (measured : Nat) : Bool :=
  wordCount ≤ measured + p.padding

/-- **The final width of a column whose widest text is measured.**  A sum that is greater than a
machine word wraps around. -/
def columnWidth (p : AutofitPolicy) (measured : Nat) : Nat :=
  min (max ((measured + p.padding) % wordCount) p.minimum) p.maximum

/-- Whether one more row is measured after `rows` rows were. -/
def measures (p : AutofitPolicy) (rows : Nat) : Bool :=
  p.enabled && p.includeBody &&
    match p.bodyMax with
    | some n => rows < n
    | none => true

end AutofitPolicy

end RecordSheet
