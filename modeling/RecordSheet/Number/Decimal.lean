import RecordSheet.Number.Binary
import RecordSheet.Number.Numeral

/-!
# Number/Decimal — floating-point numbers read from decimal text

A decimal text is an optional sign, digits with at most one point and at least one digit, and an
optional power of ten; the words for infinity and for no number are read in any case.  `Decimal` is
the exact value of such a text, and `Binary.ofText?` rounds it once to a format.
-/

namespace RecordSheet.Number

/-- An exact decimal number `± coefficient · 10 ^ exponent`. -/
structure Decimal where
  negative : Bool
  coefficient : Nat
  exponent : Int
deriving DecidableEq, Repr

/-- The exponent after the mark `e`, or zero when the text ends before it. -/
def exponent? : List Char → Option Int
  | [] => some 0
  | c :: cs => if c = 'e' ∨ c = 'E' then int? cs else none

/-- The digits after the point and what follows them, if there is a point. -/
def fractionPart : List Char → List Char × List Char
  | '.' :: cs => cs.span Char.isDigit
  | cs => ([], cs)

/-- Reads a decimal number without a sign. -/
def decimal? (negative : Bool) (cs : List Char) : Option Decimal :=
  let (whole, rest) := cs.span Char.isDigit
  let (fraction, rest) := fractionPart rest
  if whole.isEmpty && fraction.isEmpty then none
  else (exponent? rest).map fun e =>
    ⟨negative, valueFrom 0 (whole ++ fraction), e - fraction.length⟩

/-- A decimal text: an exact number, an infinity, or no number. -/
inductive DecimalText where
  | nan
  | infinite (negative : Bool)
  | exact (value : Decimal)
deriving DecidableEq, Repr

/-- The sign in front of a text and the rest of it. -/
def signAndRest : List Char → Bool × List Char
  | '-' :: cs => (true, cs)
  | '+' :: cs => (false, cs)
  | cs => (false, cs)

/-- Whether the characters spell the given word of small ASCII letters, in any case. -/
def spells (word : String) (cs : List Char) : Bool :=
  cs.map Char.toLower == word.toList

/-- Reads a decimal text. -/
def decimalText? (cs : List Char) : Option DecimalText :=
  let (negative, rest) := signAndRest cs
  if spells "nan" rest then some .nan
  else if spells "inf" rest || spells "infinity" rest then some (.infinite negative)
  else (decimal? negative rest).map .exact

namespace Binary

/-- The number of format `f` nearest to a decimal text. -/
def ofDecimalText (f : Format) : DecimalText → Binary
  | .nan => .nan
  | .infinite s => .infinite s
  | .exact d => ofDecimal f d.negative d.coefficient d.exponent

/-- **Reads a number of format `f`,** rounding the decimal text once. -/
def ofText? (f : Format) (text : String) : Option Binary :=
  (decimalText? text.toList).map (ofDecimalText f)

end Binary

end RecordSheet.Number
