import RecordSheet.Calendar.Date

/-!
# Calendar/Time — times of day, and days with a time

A `Time` counts nanoseconds past a second.  A count of a thousand million or more is for a leap
second behind that one.  A leap second ends a minute: past second 59 it is shown as second 60, and
no other is made of numbers (`Time.make?`).  Past any other second a time may still be that late,
but it is shown as the next second.
-/

namespace RecordSheet.Calendar

/-- The nanoseconds of a second. -/
def nanosPerSecond : Nat := 1000000000

/-- Whether the numbers name a time of day. -/
def isTime (hour minute second nano : Nat) : Bool :=
  decide (hour < 24) && decide (minute < 60) && decide (second < 60) &&
    decide (nano < 2 * nanosPerSecond)

/-- A time of day. -/
structure Time where
  hour : Nat
  minute : Nat
  second : Nat
  nano : Nat
  valid : isTime hour minute second nano = true := by decide
deriving DecidableEq, Repr

namespace Time

/-- Whether the time is as late as a leap second, but not at the end of a minute. -/
def IsLate (t : Time) : Prop :=
  nanosPerSecond ≤ t.nano ∧ t.second ≠ 59

instance (t : Time) : Decidable t.IsLate :=
  inferInstanceAs (Decidable (_ ∧ _))

/-- The time of the given numbers, if there is one; leap seconds end minutes. -/
def make? (hour minute second nano : Nat) : Option Time :=
  if h : isTime hour minute second nano = true then
    if nano < nanosPerSecond ∨ second = 59 then some ⟨hour, minute, second, nano, h⟩ else none
  else none

/-- The second as a clock shows it, with 60 for the leap second of a minute. -/
def shownSecond (t : Time) : Nat :=
  t.second + t.nano / nanosPerSecond

/-- The nanoseconds past the shown second. -/
def fraction (t : Time) : Nat :=
  t.nano % nanosPerSecond

/-- The seconds from midnight, a leap second counted as the one before it. -/
def secondOfDay (t : Time) : Nat :=
  t.hour * 3600 + t.minute * 60 + t.second

/-- The hour on a clock of twelve. -/
def hourOfHalf (t : Time) : Nat :=
  if t.hour % 12 = 0 then 12 else t.hour % 12

/-- A fraction of a second with the fewest of zero, three, six and nine places that show it. -/
def fractionText (nanos : Nat) : List Char :=
  if nanos = 0 then []
  else if nanos % 1000000 = 0 then '.' :: Number.padded 3 (nanos / 1000000)
  else if nanos % 1000 = 0 then '.' :: Number.padded 6 (nanos / 1000)
  else '.' :: Number.padded 9 nanos

/-- **The time as hour, minute and second** with colons between them, and its fraction if any. -/
def toText (t : Time) : String :=
  String.ofList
    (Number.padded 2 t.hour ++ ':' :: Number.padded 2 t.minute ++
      ':' :: Number.padded 2 t.shownSecond ++ fractionText t.fraction)

end Time

/-- A day and a time of day. -/
structure DateTime where
  date : Date
  time : Time
deriving DecidableEq, Repr

namespace DateTime

/-- The number of the first day of 1970. -/
def epochDay : Int := 719162

/-- The seconds from the start of 1970. -/
def timestamp (t : DateTime) : Int :=
  (t.date.dayNumber - epochDay) * 86400 + t.time.secondOfDay

/-- The day and time a number of seconds after the start of 1970. -/
def ofTimestamp? (n : Int) : Option DateTime := do
  let date ← Date.ofDayNumber? (n / 86400 + epochDay)
  let second := (n % 86400).toNat
  let time ← Time.make? (second / 3600) (second / 60 % 60) (second % 60) 0
  return ⟨date, time⟩

/-- **The day and the time,** a space between them. -/
def toText (t : DateTime) : String :=
  t.date.toText ++ " " ++ t.time.toText

end DateTime

end RecordSheet.Calendar
