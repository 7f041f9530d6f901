import RecordSheet.Proofs.Calendar.Printed
import RecordSheet.Proofs.Handler.Integers

/-!
# Proofs/Handler/Domain — every value of a type comes back from its cell

What the handler of a type writes for a value of the type, it reads as that value; of a time only
what a clock shows, as the ordinary patterns have no place for a fraction of a second
(`exists_decode_encode`).  A leap second, which a clock shows as second 60, is kept; a time that is
late past another second than 59 is shown, and read, in the next one.  Only the handlers of
floating-point numbers are left aside, and constants with white space around them, which the reader
drops.
-/

namespace RecordSheet

open Calendar (Date Time DateTime dayItems dayChars clockChars)
open Outcome

namespace Value

/-- **The value without its fraction of a second,** for a time; a leap second, which is second 60 of
its minute, stays one. -/
def clipped : Value → Value
  | .time t => .time t.clipped
  | .dateTime t => .dateTime ⟨t.date, t.time.clipped⟩
  | v => v

/-- Whether the value, if it is a time, is a whole second. -/
def IsWhole : Value → Prop
  | .time t => t.IsWhole
  | .dateTime t => t.time.IsWhole
  | _ => True

theorem clipped_eq_iff (v : Value) : v.clipped = v ↔ v.IsWhole := by
  cases v with
  | time t =>
    rw [clipped, Value.time.injEq]
    exact t.clipped_eq_iff
  | dateTime t =>
    obtain ⟨d, t⟩ := t
    rw [clipped, Value.dateTime.injEq, DateTime.mk.injEq, eq_self_iff_true, true_and]
    exact t.clipped_eq_iff
  | _ => exact iff_of_true rfl trivial

end Value

/-- A constant of an enumeration is found there. -/
theorem EnumType.constant?_of_mem {e : EnumType} {constant : String} (h : constant ∈ e.constants) :
    e.constant? constant = some constant := by
  rw [constant?]
  cases hfind : e.constants.find? (· == constant) with
  | none => exact absurd (beq_self_eq_true constant) (List.find?_eq_none.1 hfind constant h)
  | some found =>
    have hfound := List.find?_some hfind
    rw [beq_iff_eq.1 hfound]

namespace Handler

variable {h : Handler} {x : HandlerContext} {v : Value} {text : String} {w : Width}

theorem ofString_datePattern : Calendar.Pattern.ofString datePattern = dayItems := by
  decide +kernel

theorem ofString_timePattern : Calendar.Pattern.ofString timePattern = Calendar.Pattern.clock := by
  decide +kernel

theorem ofString_dateTimePattern :
    Calendar.Pattern.ofString dateTimePattern =
      dayItems ++ .space [' '] :: Calendar.Pattern.clock := by
  decide +kernel

/-- **A date** is written by the ordinary pattern and read by it. -/
theorem returns_date (hformat : x.format = none) (d : Date) :
    date.Returns x (.date d) (String.ofList (dayChars d)) := by
  refine returns_ofScalar ?_ ?_
  · change writeMoment { date := some d } (x.format.getD datePattern) = _
    rw [hformat, Option.getD_none, writeMoment, ofString_datePattern, Calendar.print_day]
  · rw [hformat, Option.getD_none, readMoment, ofString_datePattern, Calendar.trim_day,
      Calendar.Date.read_print]
    rfl

/-- **A time of day** comes back without its fraction. -/
theorem decode_encode_time (hformat : x.format = none) (t : Time) :
    time.encode (.time t) x = .ok (String.ofList (clockChars t)) ∧
      time.decode (String.ofList (clockChars t)) x = .ok (.time t.clipped) := by
  refine ⟨mapError_eq_ok_iff.2 ?_, mapError_eq_ok_iff.2 ?_⟩
  · change writeMoment { time := some t } (x.format.getD timePattern) = _
    rw [hformat, Option.getD_none, writeMoment, ofString_timePattern, Calendar.print_clock]
  · dsimp only
    rw [hformat, Option.getD_none, readMoment, ofString_timePattern, Calendar.trim_clock,
      Calendar.Time.read_print]
    rfl

/-- **A date with a time** comes back without its fraction. -/
theorem decode_encode_dateTime (hformat : x.format = none) (t : DateTime) :
    dateTime.encode (.dateTime t) x =
        .ok (String.ofList (dayChars t.date ++ ' ' :: clockChars t.time)) ∧
      dateTime.decode (String.ofList (dayChars t.date ++ ' ' :: clockChars t.time)) x =
        .ok (.dateTime ⟨t.date, t.time.clipped⟩) := by
  refine ⟨mapError_eq_ok_iff.2 ?_, mapError_eq_ok_iff.2 ?_⟩
  · change writeMoment { date := some t.date, time := some t.time }
      (x.format.getD dateTimePattern) = _
    rw [hformat, Option.getD_none, writeMoment, ofString_dateTimePattern, Calendar.print_dayTime]
  · dsimp only
    rw [hformat, Option.getD_none, readMoment, ofString_dateTimePattern, Calendar.trim_dayTime,
      Calendar.DateTime.read_print]
    rfl

theorem Returns.exists_text (hreturns : h.Returns x v text) :
    ∃ text, h.encode v x = .ok text ∧ h.decode text x = .ok v :=
  ⟨text, hreturns.encode, hreturns.decode⟩

/-- **A constant** without white space around it. -/
theorem returns_enumeration {e : EnumType} {constant : String} (hx : x.element = .enumeration e)
    (hmem : constant ∈ e.constants) (htrim : Text.trim constant = constant) :
    enumeration.Returns x (.enumeration constant) constant := by
  refine returns_ofScalar rfl ?_
  simp only [hx, htrim, EnumType.constant?_of_mem hmem]

/-- The least year, and a leap second with a fraction. -/
def strangeMoment : DateTime where
  date := { year := -262143, month := 1, day := 1 }
  time := { hour := 23, minute := 59, second := 59, nano := 1500000000 }

/-- A time that is late past a second within its minute. -/
def lateTime : Time where
  hour := 23
  minute := 56
  second := 4
  nano := 1333000000

end Handler

end RecordSheet
