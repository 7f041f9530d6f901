import RecordSheet.Number.Numeral

/-!
# Calendar/Date — days of the Gregorian calendar

A `Date` is a valid day of the calendar, extended to all years from −262143 to 262142.  Days are
counted from the first of January of year 1, a Monday; the count gives the day of the week, the week
numbers and the way back from ordinals and ISO weeks to dates.
-/

namespace RecordSheet.Calendar

/-- Whether the year has a 29th of February. -/
def isLeap (year : Int) : Bool :=
  year % 4 == 0 && (year % 100 != 0 || year % 400 == 0)

/-- The number of days of a month. -/
def daysInMonth (year : Int) (month : Nat) : Nat :=
  if month = 2 then if isLeap year then 29 else 28
  else if month = 4 ∨ month = 6 ∨ month = 9 ∨ month = 11 then 30
  else 31

/-- The days of a year before the given month. -/
def daysBeforeMonth (year : Int) (month : Nat) : Nat :=
  (List.range (month - 1)).foldl (fun days m => days + daysInMonth year (m + 1)) 0

/-- The days from the first of January of year 1 to that of `year`. -/
def daysBeforeYear (year : Int) : Int :=
  365 * (year - 1) + (year - 1) / 4 - (year - 1) / 100 + (year - 1) / 400

/-- Whether the numbers name a day in the range of the calendar. -/
def isDay (year : Int) (month day : Nat) : Bool :=
  decide (-262143 ≤ year) && decide (year ≤ 262142) && decide (1 ≤ month) && decide (month ≤ 12) &&
    decide (1 ≤ day) && decide (day ≤ daysInMonth year month)

/-- A day of the calendar. -/
structure Date where
  year : Int
  month : Nat
  day : Nat
  valid : isDay year month day = true := by decide
deriving DecidableEq, Repr

namespace Date

/-- The day of the given numbers, if there is one. -/
def make? (year : Int) (month day : Nat) : Option Date :=
  if h : isDay year month day = true then some ⟨year, month, day, h⟩ else none

/-- The position of the day in its year, from 1. -/
def ordinal (d : Date) : Nat :=
  daysBeforeMonth d.year d.month + d.day

/-- The days from the first of January of year 1 to the day. -/
def dayNumber (d : Date) : Int :=
  daysBeforeYear d.year + d.ordinal - 1

/-- The day at a position of a year. -/
def ofOrdinal? (year : Int) (ordinal : Nat) : Option Date :=
  if ordinal = 0 then none
  else
    (List.range 12).findSome? fun m =>
      let before := daysBeforeMonth year (m + 1)
      if before < ordinal ∧ ordinal ≤ before + daysInMonth year (m + 1) then
        make? year (m + 1) (ordinal - before)
      else none

/-- The year in which day number `n` lies: the estimate from the mean length of a year is off by at
most one. -/
def yearOfDayNumber (n : Int) : Int :=
  let y := n * 400 / 146097 + 1
  if n < daysBeforeYear y then y - 1
  else if daysBeforeYear (y + 1) ≤ n then y + 1
  else y

/-- The day with the given number. -/
def ofDayNumber? (n : Int) : Option Date :=
  let year := yearOfDayNumber n
  ofOrdinal? year (n - daysBeforeYear year + 1).toNat

/-- The day of the week, as days after Monday. -/
def weekday (d : Date) : Nat :=
  (d.dayNumber % 7).toNat

/-- The number of the week in its year when weeks start `start` days after Monday; the days before
the first such day are week 0. -/
def weekFrom (start : Nat) (d : Date) : Nat :=
  (d.ordinal + 6 - (d.weekday + 7 - start) % 7) / 7

end Date

/-- The day of the week of the first of January, as days after Monday. -/
def firstWeekday (year : Int) : Nat :=
  (daysBeforeYear year % 7).toNat

/-- The number of ISO weeks of a year: 53 when it starts on a Thursday, or on a Wednesday and is a
leap year. -/
def isoWeeks (year : Int) : Nat :=
  if firstWeekday year = 3 ∨ firstWeekday year = 2 ∧ isLeap year then 53 else 52

namespace Date

/-- The ISO year and week: the week belongs to the year that holds its Thursday. -/
def isoWeek (d : Date) : Int × Nat :=
  let week := (d.ordinal + 9 - d.weekday) / 7
  if week = 0 then (d.year - 1, isoWeeks (d.year - 1))
  else if isoWeeks d.year < week then (d.year + 1, 1)
  else (d.year, week)

/-- The day of an ISO year, week and day of the week. -/
def ofIsoWeek? (year : Int) (week weekday : Nat) : Option Date :=
  if week = 0 ∨ isoWeeks year < week then none
  else
    let january4 := daysBeforeYear year + 3
    ofDayNumber? (january4 - january4 % 7 + 7 * (week - 1) + weekday)

/-- The day of a year, a week counted from `start` days after Monday, and a day of the week: `none`
when it falls before the year or after it. -/
def ofWeekFrom? (start : Nat) (year : Int) (week weekday : Nat) : Option Date :=
  let firstStart : Nat := 1 + (start + 7 - firstWeekday year) % 7
  let position : Int := firstStart + ((week : Int) - 1) * 7 + ((weekday + 7 - start) % 7 : Nat)
  if position ≤ 0 then none else ofOrdinal? year position.toNat

/-- A year with at least four digits; one outside of 0 to 9999 has a sign. -/
def yearText (year : Int) : List Char :=
  if 0 ≤ year ∧ year ≤ 9999 then Number.padded 4 year.natAbs
  else (if year < 0 then '-' else '+') :: Number.padded 4 year.natAbs

/-- **The day as year, month and day** with hyphens between them. -/
def toText (d : Date) : String :=
  String.ofList
    (yearText d.year ++ '-' :: Number.padded 2 d.month ++ '-' :: Number.padded 2 d.day)

/-- The order of days in time. -/
def before (d e : Date) : Bool :=
  decide (d.year < e.year ∨ d.year = e.year ∧
    (d.month < e.month ∨ d.month = e.month ∧ d.day < e.day))

end Date

end RecordSheet.Calendar
