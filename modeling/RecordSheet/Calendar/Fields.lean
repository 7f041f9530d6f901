import RecordSheet.Calendar.Pattern
import RecordSheet.Calendar.Time

/-!
# Calendar/Fields — the numbers of a date or time and what they determine

Reading by a pattern collects numbers; each may be given more than once if all occurrences agree.
`Fields.date`, `Fields.time` and `Fields.dateTime` build the one date or time that the numbers
determine, and check every number that was not needed against it.
-/

namespace RecordSheet.Calendar

/-- Why a text is no date or time of a pattern. -/
inductive ReadFault where
  | outOfRange
  | impossible
  | notEnough
  | invalid
  | tooShort
  | tooLong
  | badPattern
deriving DecidableEq, Repr

/-- The text of a fault. -/
def ReadFault.message : ReadFault → String
  | .outOfRange => "input is out of range"
  | .impossible => "no possible date and time matching input"
  | .notEnough => "input is not enough for unique date and time"
  | .invalid => "input contains invalid characters"
  | .tooShort => "premature end of input"
  | .tooLong => "trailing input"
  | .badPattern => "bad or unsupported format string"

/-- The numbers read so far. -/
structure Fields where
  year : Option Int := none
  century : Option Int := none
  yearOfCentury : Option Int := none
  isoYear : Option Int := none
  month : Option Nat := none
  day : Option Nat := none
  ordinal : Option Nat := none
  weekFromSunday : Option Nat := none
  weekFromMonday : Option Nat := none
  isoWeek : Option Nat := none
  /-- The day of the week, as days after Monday. -/
  weekday : Option Nat := none
  /-- Whether the time lies in the second half of the day. -/
  afternoon : Option Bool := none
  /-- The hour within its half of the day, from 0 to 11. -/
  hourOfHalf : Option Nat := none
  minute : Option Nat := none
  second : Option Nat := none
  nano : Option Nat := none
  timestamp : Option Int := none
deriving DecidableEq, Repr

namespace Fields

/-! ## Collecting -/

/-- A number next to the one read before, if any: the two must agree. -/
def agree {α : Type} [DecidableEq α] (old : Option α) (new : α) : Except ReadFault (Option α) :=
  if old = none ∨ old = some new then .ok (some new) else .error .impossible

/-- A number between two bounds. -/
def bounded (low high n : Int) : Except ReadFault Nat :=
  if low ≤ n ∧ n ≤ high then .ok n.toNat else .error .outOfRange

/-- A number that fits a signed word of 32 bits, as all years do. -/
def yearNumber (low n : Int) : Except ReadFault Int :=
  if low ≤ n ∧ n < Int.pow 2 31 then .ok n else .error .outOfRange

/-- Adds the hour of a day of 24 hours. -/
def setHour (s : Fields) (hour : Nat) : Except ReadFault Fields := do
  let afternoon ← agree s.afternoon (decide (12 ≤ hour))
  let hourOfHalf ← agree s.hourOfHalf (hour % 12)
  return { s with afternoon, hourOfHalf }

/-- Adds the half of the day. -/
def setHalf (s : Fields) (afternoon : Bool) : Except ReadFault Fields := do
  return { s with afternoon := ← agree s.afternoon afternoon }

/-- Adds the month. -/
def setMonth (s : Fields) (month : Nat) : Except ReadFault Fields := do
  return { s with month := ← agree s.month month }

/-- Adds the day of the week. -/
def setWeekday (s : Fields) (weekday : Nat) : Except ReadFault Fields := do
  return { s with weekday := ← agree s.weekday weekday }

/-- Adds the nanoseconds of the second. -/
def setNano (s : Fields) (nano : Nat) : Except ReadFault Fields := do
  return { s with nano := ← agree s.nano nano }

/-- Adds a number that a pattern asks for. -/
def set (s : Fields) (f : NumberField) (n : Int) : Except ReadFault Fields :=
  match f with
  | .year => do return { s with year := ← agree s.year (← yearNumber (-Int.pow 2 31) n) }
  | .century => do return { s with century := ← agree s.century (← yearNumber 0 n) }
  | .yearOfCentury => do
    return { s with yearOfCentury := ← agree s.yearOfCentury (← bounded 0 99 n : Nat) }
  | .isoYear => do return { s with isoYear := ← agree s.isoYear (← yearNumber (-Int.pow 2 31) n) }
  | .month => do s.setMonth (← bounded 1 12 n)
  | .day => do return { s with day := ← agree s.day (← bounded 1 31 n) }
  | .weekFromSunday => do
    return { s with weekFromSunday := ← agree s.weekFromSunday (← bounded 0 53 n) }
  | .weekFromMonday => do
    return { s with weekFromMonday := ← agree s.weekFromMonday (← bounded 0 53 n) }
  | .isoWeek => do return { s with isoWeek := ← agree s.isoWeek (← bounded 1 53 n) }
  | .weekdayFromSunday => do s.setWeekday (((← bounded 0 6 n) + 6) % 7)
  | .weekdayFromMonday => do s.setWeekday ((← bounded 1 7 n) - 1)
  | .ordinal => do return { s with ordinal := ← agree s.ordinal (← bounded 1 366 n) }
  | .hour => do s.setHour (← bounded 0 23 n)
  | .hourOfHalf => do
    return { s with hourOfHalf := ← agree s.hourOfHalf ((← bounded 1 12 n) % 12) }
  | .minute => do return { s with minute := ← agree s.minute (← bounded 0 59 n) }
  | .second => do return { s with second := ← agree s.second (← bounded 0 60 n) }
  | .nano => do s.setNano (← bounded 0 999999999 n)
  | .timestamp => do return { s with timestamp := ← agree s.timestamp n }

/-! ## The date -/

/-- The year that a full year, a century and a year of the century determine.  A year of the century
alone lies between 1970 and 2069. -/
def resolveYear (year century rest : Option Int) : Except ReadFault (Option Int) :=
  match year, century, rest with
  | y, none, none => .ok y
  | some y, q, r =>
    if 0 ≤ y ∧ q.getD (y / 100) = y / 100 ∧ r.getD (y % 100) = y % 100 then .ok (some y)
    else .error .impossible
  | none, some q, some r =>
    if q * 100 + r < Int.pow 2 31 then .ok (some (q * 100 + r)) else .error .outOfRange
  | none, none, some r => .ok (some (r + if r < 70 then 2000 else 1900))
  | none, some _, none => .error .notEnough

/-- Whether a number that may have been read is `n`. -/
def allows {α : Type} [DecidableEq α] (read : Option α) (n : α) : Bool :=
  read = none || read = some n

/-- Whether the numbers of year, month and day that were read are those of `d`. -/
def allowsDay (s : Fields) (d : Date) : Bool :=
  allows s.year d.year &&
    (if 0 ≤ d.year then
      allows s.century (d.year / 100) && allows s.yearOfCentury (d.year % 100)
    else s.century.isNone && s.yearOfCentury.isNone) &&
    allows s.month d.month && allows s.day d.day

/-- Whether the ISO year and week and the day of the week that were read are those of `d`. -/
def allowsIsoWeek (s : Fields) (d : Date) : Bool :=
  allows s.isoYear d.isoWeek.1 && allows s.isoWeek d.isoWeek.2 && allows s.weekday d.weekday

/-- Whether the ordinal and the week numbers that were read are those of `d`. -/
def allowsOrdinal (s : Fields) (d : Date) : Bool :=
  allows s.ordinal d.ordinal && allows s.weekFromSunday (d.weekFrom 6) &&
    allows s.weekFromMonday (d.weekFrom 0)

/-- The day of a week number and a day of the week. -/
def weekDate (start : Nat) (year : Int) (week weekday : Nat) : Except ReadFault Date :=
  if (Date.make? year 1 1).isNone then .error .outOfRange
  else
    match Date.ofWeekFrom? start year week weekday with
    | some d => .ok d
    | none => .error .impossible

/-- A day that the calendar may lack. -/
def orOutOfRange : Option Date → Except ReadFault Date
  | some d => .ok d
  | none => .error .outOfRange

/-- The day, when all numbers read agree with it. -/
def verified (d : Date) (agrees : Bool) : Except ReadFault Date :=
  if agrees then .ok d else .error .impossible

/-- **The day that the numbers determine.**  Year, month and day come first, then the ordinal, the
week numbers, and the ISO week. -/
def date (s : Fields) : Except ReadFault Date := do
  let year ← resolveYear s.year s.century s.yearOfCentury
  match year, s.month, s.day with
  | some y, some m, some d =>
    let date ← orOutOfRange (Date.make? y m d)
    verified date (s.allowsIsoWeek date && s.allowsOrdinal date)
  | _, _, _ =>
  match year, s.ordinal with
  | some y, some n =>
    let date ← orOutOfRange (Date.ofOrdinal? y n)
    verified date (s.allowsDay date && s.allowsIsoWeek date && s.allowsOrdinal date)
  | _, _ =>
  match year, s.weekFromSunday, s.weekday with
  | some y, some w, some d =>
    let date ← weekDate 6 y w d
    verified date (s.allowsDay date && s.allowsIsoWeek date && s.allowsOrdinal date)
  | _, _, _ =>
  match year, s.weekFromMonday, s.weekday with
  | some y, some w, some d =>
    let date ← weekDate 0 y w d
    verified date (s.allowsDay date && s.allowsIsoWeek date && s.allowsOrdinal date)
  | _, _, _ =>
  match s.isoYear, s.isoWeek, s.weekday with
  | some y, some w, some d =>
    let date ← orOutOfRange (Date.ofIsoWeek? y w d)
    verified date (s.allowsDay date && s.allowsOrdinal date)
  | _, _, _ => .error .notEnough

/-! ## The time -/

/-- **The time that the numbers determine.**  Seconds may be missing, but not when there is a
fraction; second 60 is the leap second. -/
def time (s : Fields) : Except ReadFault Time :=
  match s.afternoon, s.hourOfHalf, s.minute with
  | some afternoon, some hourOfHalf, some minute =>
    if s.nano.isSome && s.second.isNone then .error .notEnough
    else
      let hour := (if afternoon then 12 else 0) + hourOfHalf
      let (second, leap) :=
        if s.second = some 60 then (59, nanosPerSecond) else (s.second.getD 0, 0)
      match Time.make? hour minute second (leap + s.nano.getD 0) with
      | some t => .ok t
      | none => .error .outOfRange
  | _, _, _ => .error .notEnough

/-! ## Both -/

/-- The fields of the second that a timestamp names.  When second 60 was read the timestamp may be
that second's or the next one's. -/
def withTimestamp (s : Fields) (n : Int) : Except ReadFault Fields := do
  let orOut (t : Option DateTime) : Except ReadFault DateTime :=
    match t with
    | some t => .ok t
    | none => .error .outOfRange
  let t ← orOut (DateTime.ofTimestamp? n)
  let t ←
    if s.second = some 60 then
      if t.time.second = 59 then pure t
      else if t.time.second = 0 then orOut (DateTime.ofTimestamp? (n - 1))
      else .error .impossible
    else pure t
  let s ← if s.second = some 60 then pure s else s.set .second t.time.second
  let s ← s.set .year t.date.year
  let s ← s.set .ordinal t.date.ordinal
  let s ← s.setHour t.time.hour
  s.set .minute t.time.minute

/-- **The day and time that the numbers determine.**  A timestamp fills in what is missing and must
agree with what is there. -/
def dateTime (s : Fields) : Except ReadFault DateTime :=
  match s.date, s.time, s.timestamp with
  | .ok d, .ok t, none => .ok ⟨d, t⟩
  | .ok d, .ok t, some n =>
    let exact := DateTime.timestamp ⟨d, t⟩
    if n = exact ∨ nanosPerSecond ≤ t.nano ∧ n = exact + 1 then .ok ⟨d, t⟩
    else .error .impossible
  | .error e, _, none => .error e
  | .ok _, .error e, none => .error e
  | date, time, some n => do
    let failsBy (e : ReadFault) : Bool :=
      (match date with | .error e' => e' == e | .ok _ => false) ||
        (match time with | .error e' => e' == e | .ok _ => false)
    if failsBy .outOfRange then throw .outOfRange
    if failsBy .impossible then throw .impossible
    let s ← s.withTimestamp n
    return ⟨← s.date, ← s.time⟩

end Fields

end RecordSheet.Calendar
