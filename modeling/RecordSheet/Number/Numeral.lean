/-!
# Number/Numeral — whole numbers written in decimal digits

`numeral n` writes a natural number, `nat?` reads one and `int?` reads a whole number with an
optional sign.  Leading zeros are read and never written; only the ten ASCII digits count.
-/

namespace RecordSheet.Number

/-- The value of one decimal digit. -/
def digitValue (c : Char) : Nat :=
  c.toNat - '0'.toNat

/-- The number a list of digits stands for, after a part worth `high`. -/
def valueFrom (high : Nat) (cs : List Char) : Nat :=
  cs.foldl (fun n c => 10 * n + digitValue c) high

/-- The decimal digits of a number, highest first. -/
def numeral (n : Nat) : List Char :=
  Nat.toDigits 10 n

/-- The digits of `n`, with zeros in front up to `width` characters. -/
def padded (width : Nat) (n : Nat) : List Char :=
  let ds := numeral n
  List.replicate (width - ds.length) '0' ++ ds

/-- The decimal form of a whole number, with a sign if it is negative. -/
def signed (n : Int) : List Char :=
  if n < 0 then '-' :: numeral n.natAbs else numeral n.natAbs

/-- Whether the characters are digits, at least one. -/
def isNumeral (cs : List Char) : Bool :=
  !cs.isEmpty && cs.all Char.isDigit

/-- **Reads a natural number:** at least one digit and nothing else. -/
def nat? (cs : List Char) : Option Nat :=
  if isNumeral cs then some (valueFrom 0 cs) else none

/-- Reads a natural number that may have a plus sign. -/
def plusNat? : List Char → Option Nat
  | '+' :: cs => nat? cs
  | cs => nat? cs

/-- Reads a whole number that may have a sign. -/
def int? : List Char → Option Int
  | '-' :: cs => (nat? cs).map fun n => -(n : Int)
  | cs => (plusNat? cs).map Int.ofNat

/-- The whole number `n` when it lies between the bounds. -/
def within? (low high n : Int) : Option Int :=
  if low ≤ n ∧ n ≤ high then some n else none

end RecordSheet.Number
