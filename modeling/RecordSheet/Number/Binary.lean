/-!
# Number/Binary — binary floating-point numbers with exact rounding

A number is `± mantissa · 2 ^ exponent`, an infinity or not a number.  A `Format` bounds the
mantissa and the exponent, and `ofRatio` gives the number of a format nearest to a quotient, with
ties to the even mantissa.  Every other operation is exact arithmetic followed by that rounding:
`ofInt` for whole numbers, `convert` between formats.
-/

namespace RecordSheet.Number

/-- The quotient rounded to the nearest natural number; a half goes to the even neighbour. -/
def roundHalfEven (num den : Nat) : Nat :=
  let q := num / den
  let r := num % den
  if 2 * r < den then q
  else if den < 2 * r then q + 1
  else if q % 2 = 0 then q
  else q + 1

/-- The largest `e` with `2 ^ e ≤ num / den`, for positive numbers. -/
def floorLog2 (num den : Nat) : Int :=
  let e : Int := (Nat.log2 num : Int) - (Nat.log2 den : Int)
  if den * Nat.pow 2 e.toNat ≤ num * Nat.pow 2 (-e).toNat then e else e - 1

/-- A binary floating-point format: mantissas below `2 ^ precision`, exponents from `least` to
`greatest`. -/
structure Format where
  precision : Nat
  least : Int
  greatest : Int
deriving DecidableEq, Repr

namespace Format

/-- The format of 64 bits. -/
def double : Format := ⟨53, -1074, 971⟩

/-- The format of 32 bits. -/
def single : Format := ⟨24, -149, 104⟩

end Format

/-- A binary floating-point number. -/
inductive Binary where
  | nan
  | infinite (negative : Bool)
  | finite (negative : Bool) (mantissa : Nat) (exponent : Int)
deriving DecidableEq, Repr, Inhabited

namespace Binary

/-- Zero, with a sign. -/
def zero (f : Format) (negative : Bool) : Binary :=
  .finite negative 0 f.least

/-- The number of format `f` nearest to `± num / den`, infinite when that lies past the largest
one. -/
def ofRatio (f : Format) (negative : Bool) (num den : Nat) : Binary :=
  if num = 0 then zero f negative
  else
    let e := max f.least (floorLog2 num den - (f.precision - 1 : Nat))
    let m := roundHalfEven (num * Nat.pow 2 (-e).toNat) (den * Nat.pow 2 e.toNat)
    let (m, e) := if m = Nat.pow 2 f.precision then (Nat.pow 2 (f.precision - 1), e + 1) else (m, e)
    if f.greatest < e then .infinite negative else .finite negative m e

/-- The number of format `f` nearest to a whole number. -/
def ofInt (f : Format) (n : Int) : Binary :=
  ofRatio f (decide (n < 0)) n.natAbs 1

/-- The number of format `f` nearest to a number of any other. -/
def convert (f : Format) : Binary → Binary
  | .finite s m e => ofRatio f s (m * Nat.pow 2 e.toNat) (Nat.pow 2 (-e).toNat)
  | x => x

/-- The number of format `f` nearest to `± coefficient · 10 ^ exponent`.

A power of ten is at least the same power of two, so the first two cases lie beyond the largest
number and below half the smallest one. -/
def ofDecimal (f : Format) (negative : Bool) (coefficient : Nat) (exponent : Int) : Binary :=
  if coefficient = 0 then zero f negative
  else if f.greatest + f.precision < exponent then .infinite negative
  else if Nat.log2 coefficient + 1 + 3 * exponent < f.least - 1 then zero f negative
  else ofRatio f negative (coefficient * Nat.pow 10 exponent.toNat) (Nat.pow 10 (-exponent).toNat)

/-- The value of a finite number without a fraction. -/
def whole? : Binary → Option Int
  | .finite s m e =>
    let scale := Nat.pow 2 (-e).toNat
    if m % scale = 0 then
      let n := (m / scale * Nat.pow 2 e.toNat : Nat)
      some (if s then -(n : Int) else n)
    else none
  | _ => none

end Binary

end RecordSheet.Number
