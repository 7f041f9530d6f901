import RecordSheet.Calendar.Pattern
import RecordSheet.Calendar.Time

/-!
# Calendar/Printer — dates and times written by a pattern

`Moment` is what there is to write: a date, a time, or both.  An item that asks for a missing part
cannot be written, and neither can a pattern that holds one.
-/

namespace RecordSheet.Calendar

/-- What a pattern is filled in from. -/
structure Moment where
  date : Option Date := none
  time : Option Time := none

namespace Moment

/-- A number of at least `width` places. -/
def filled (width : Nat) (n : Nat) : Padding → List Char
  | .none => Number.numeral n
  | .zero => Number.padded width n
  | .space =>
    let ds := Number.numeral n
    List.replicate (width - ds.length) ' ' ++ ds

/-- A number of two places: one character for the tens and one for the units.  The count is taken
modulo 256, and tens above nine run on through the characters after the digits. -/
def twoPlaces (n : Int) (p : Padding) : List Char :=
  let n := (n % 256).toNat
  let units := Char.ofNat ('0'.toNat + n % 10)
  if n / 10 = 0 ∧ p = .none then [units]
  else if n / 10 = 0 ∧ p = .space then [' ', units]
  else [Char.ofNat ('0'.toNat + n / 10), units]

/-- A year of at least four digits; one outside of 0 to 9999 has a sign, which does not count. -/
def yearPlaces (year : Int) (p : Padding) : List Char :=
  if 0 ≤ year ∧ year ≤ 9999 then filled 4 year.natAbs p
  else
    let sign := if year < 0 then '-' else '+'
    match p with
    | .space =>
      let ds := sign :: Number.numeral year.natAbs
      List.replicate (5 - ds.length) ' ' ++ ds
    | p => sign :: filled 4 year.natAbs p

/-- The number a pattern asks for, written with the given padding. -/
def numberChars (m : Moment) (f : NumberField) (p : Padding) : Option (List Char) :=
  match f with
  | .year => m.date.map fun d => yearPlaces d.year p
  | .century => m.date.map fun d => twoPlaces (d.year / 100) p
  | .yearOfCentury => m.date.map fun d => twoPlaces (d.year % 100) p
  | .isoYear => m.date.map fun d => yearPlaces d.isoWeek.1 p
  | .month => m.date.map fun d => twoPlaces d.month p
  | .day => m.date.map fun d => twoPlaces d.day p
  | .weekFromSunday => m.date.map fun d => twoPlaces (d.weekFrom 6) p
  | .weekFromMonday => m.date.map fun d => twoPlaces (d.weekFrom 0) p
  | .isoWeek => m.date.map fun d => twoPlaces d.isoWeek.2 p
  | .weekdayFromSunday => m.date.map fun d => Number.numeral ((d.weekday + 1) % 7)
  | .weekdayFromMonday => m.date.map fun d => Number.numeral (d.weekday + 1)
  | .ordinal => m.date.map fun d => filled 3 d.ordinal p
  | .hour => m.time.map fun t => twoPlaces t.hour p
  | .hourOfHalf => m.time.map fun t => twoPlaces t.hourOfHalf p
  | .minute => m.time.map fun t => twoPlaces t.minute p
  | .second => m.time.map fun t => twoPlaces t.shownSecond p
  | .nano => m.time.map fun t => filled 9 t.fraction p
  | .timestamp => do
    let n := DateTime.timestamp ⟨← m.date, ← m.time⟩
    return Number.signed n

/-- The first `count` places of the second's fraction. -/
def placesChars (t : Time) (count : Nat) : List Char :=
  Number.padded count (t.fraction / Nat.pow 10 (9 - count))

/-- A name from a list, long or short. -/
def nameChars (names : List String) (index : Nat) (long : Bool) : Option (List Char) :=
  names[index]?.map fun name => if long then name.toList else shortName name

/-- One item filled in. -/
def itemChars (m : Moment) : Item → Option (List Char)
  | .literal cs => some cs
  | .space cs => some cs
  | .number f p => m.numberChars f p
  | .monthName long => m.date.bind fun d => nameChars monthNames (d.month - 1) long
  | .weekdayName long => m.date.bind fun d => nameChars weekdayNames d.weekday long
  | .half capital => m.time.map fun t =>
    match decide (t.hour < 12), capital with
    | true, true => ['A', 'M']
    | true, false => ['a', 'm']
    | false, true => ['P', 'M']
    | false, false => ['p', 'm']
  | .fraction => m.time.map fun t => Time.fractionText t.fraction
  | .places point count => m.time.map fun t =>
    if point then '.' :: placesChars t count else placesChars t count
  | .unknown => none

/-- **The pattern filled in,** if every item can be. -/
def print? (m : Moment) (p : Pattern) : Option String :=
  (p.mapM m.itemChars).map fun parts => String.ofList parts.flatten

end Moment

end RecordSheet.Calendar
