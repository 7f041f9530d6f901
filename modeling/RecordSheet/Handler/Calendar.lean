import RecordSheet.Calendar.Printer
import RecordSheet.Calendar.Reader
import RecordSheet.Handler.Basic

/-!
# Handler/Calendar — dates and times in cells

Dates and times are written and read by the pattern declared for the attribute, or by the ordinary
pattern of their type.  Reading leaves out the white space around the text.
-/

namespace RecordSheet

open Calendar

namespace Handler

/-- The ordinary pattern of dates. -/
def datePattern : String := "%Y-%m-%d"

/-- The ordinary pattern of times of day. -/
def timePattern : String := "%H:%M:%S"

/-- The ordinary pattern of dates with a time. -/
def dateTimePattern : String := "%Y-%m-%d %H:%M:%S"

/-- A date or time written by a pattern text.  A pattern that asks for more than there is, or that
has an unknown directive, stops the program instead of failing (`ScalarFault.unwritable`). -/
def writeMoment (m : Moment) (pattern : String) : Except ScalarFault String :=
  match m.print? (Pattern.ofString pattern) with
  | some s => .ok s
  | none => .error (.unwritable pattern)

/-- A date or time read by a pattern text, without the white space around it. -/
def readMoment {α : Type} (read : Pattern → String → Except ReadFault α) (pattern text : String) :
    Except ScalarFault α :=
  (read (Pattern.ofString pattern) (Text.trim text)).mapError fun f => .calendar f.message pattern

/-- **The handler of dates.** -/
def date : Handler :=
  .ofScalar .date
    (fun v c =>
      match v with
      | .date d => writeMoment { date := some d } (c.format.getD datePattern)
      | .dateTime t => writeMoment { date := some t.date } (c.format.getD datePattern)
      | v => .error (.unsupported v.kind .date))
    fun s c => .date <$> readMoment Date.read (c.format.getD datePattern) s

/-- **The handler of times of day.** -/
def time : Handler :=
  .ofScalar .time
    (fun v c =>
      match v with
      | .time t => writeMoment { time := some t } (c.format.getD timePattern)
      | v => .error (.unsupported v.kind .time))
    fun s c => .time <$> readMoment Time.read (c.format.getD timePattern) s

/-- **The handler of dates with a time.** -/
def dateTime : Handler :=
  .ofScalar .dateTime
    (fun v c =>
      match v with
      | .dateTime t =>
        writeMoment { date := some t.date, time := some t.time } (c.format.getD dateTimePattern)
      | v => .error (.unsupported v.kind .dateTime))
    fun s c => .dateTime <$> readMoment DateTime.read (c.format.getD dateTimePattern) s

end Handler

end RecordSheet
