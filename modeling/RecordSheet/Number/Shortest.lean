import RecordSheet.Number.Binary
import RecordSheet.Number.Numeral

/-!
# Number/Shortest — the shortest decimal form of a floating-point number

The numbers that round to a given one form an interval.  Its shortest decimal form is the point of
the coarsest decimal grid that meets the interval; of two such points the nearer is taken, and of
two equally near the larger.  `Binary.toText` writes it without a power of ten.
-/

namespace RecordSheet.Number

namespace Binary

/-- The interval of numbers that round to `mantissa · 2 ^ exponent`, and the number itself, in
quarters of its last place. -/
structure Rounding where
  low : Nat
  value : Nat
  high : Nat
  /-- Whether the two ends round to the number. -/
  closed : Bool

/-- The rounding interval of a positive number of format `f`.  Below a power of two the neighbours
are half as far apart. -/
def rounding (f : Format) (m : Nat) (e : Int) : Rounding where
  low := if m = Nat.pow 2 (f.precision - 1) ∧ f.least < e then 4 * m - 1 else 4 * m - 2
  value := 4 * m
  high := 4 * m + 2
  closed := m % 2 == 0

/-- The multiple of `10 ^ k` in the rounding interval, when there is one: the count of the nearer of
the two multiples next to the number. -/
def gridPoint? (r : Rounding) (e k : Int) : Option Nat :=
  let scale := Nat.pow 2 e.toNat * Nat.pow 10 (-k).toNat
  let unit := 4 * Nat.pow 2 (-e).toNat * Nat.pow 10 k.toNat
  let inside (n : Nat) : Bool :=
    if r.closed then decide (r.low * scale ≤ n * unit) && decide (n * unit ≤ r.high * scale)
    else decide (r.low * scale < n * unit) && decide (n * unit < r.high * scale)
  let below := r.value * scale / unit
  let above := (r.value * scale + unit - 1) / unit
  if inside below then
    if inside above && decide (above * unit + below * unit ≤ 2 * (r.value * scale)) then some above
    else some below
  else if inside above then some above
  else none

/-- The exponent of a power of ten above every number of the interval: the fraction is the decimal
logarithm of two to five places. -/
def topPower (m : Nat) (e : Int) : Int :=
  ((Nat.log2 m + 1 : Nat) + e) * 30103 / 100000 + 2

/-- The shortest decimal `n · 10 ^ k` that rounds to `m · 2 ^ e`, as the pair of `n` and `k`.  The
grids are tried from the coarsest on. -/
def shortest (f : Format) (m : Nat) (e : Int) : Nat × Int :=
  let r := rounding f m e
  let top := topPower m e
  let found := (List.range (f.precision + 2)).findSome? fun (i : Nat) =>
    (gridPoint? r e (top - i)).map fun n => (n, top - i)
  found.getD (m * Nat.pow 2 e.toNat, 0)

/-- The digits `ds`, of which the last stands for `10 ^ k`, in positional notation. -/
def positional (ds : List Char) (k : Int) : List Char :=
  if 0 ≤ k then ds ++ List.replicate k.toNat '0'
  else
    let places := (-k).toNat
    let ds := List.replicate (places + 1 - ds.length) '0' ++ ds
    ds.take (ds.length - places) ++ '.' :: ds.drop (ds.length - places)

/-- Without the zeros at the end of a digit list, and how many those are. -/
def dropTrailingZeros (ds : List Char) : List Char × Nat :=
  let kept := (ds.reverse.dropWhile (· == '0')).reverse
  (kept, ds.length - kept.length)

/-- **The shortest text that reads back as the number** in format `f`, without a power of ten. -/
def toText (f : Format) : Binary → String
  | .nan => "NaN"
  | .infinite s => if s then "-inf" else "inf"
  | .finite s m e =>
    let body :=
      if m = 0 then ['0']
      else
        let (n, k) := shortest f m e
        let (ds, zeros) := dropTrailingZeros (numeral n)
        positional ds (k + zeros)
    String.ofList (if s then '-' :: body else body)

end Binary

end RecordSheet.Number
