import RecordSheet.Text.Blank

/-!
# Calendar/Pattern — patterns of dates and times

A pattern is a text in which a percent sign starts a directive; all else stands for itself.
`Pattern.ofString` breaks it into items: numbers, names, fractions of a second, white space and
literal text.  A directive that is not known, or not complete, is the item `unknown`, with which
nothing can be read or written.
-/

namespace RecordSheet.Calendar

/-- What stands in front of a number that is shorter than its width. -/
inductive Padding where
  | none
  | zero
  | space
deriving DecidableEq, Repr

/-- The numbers a pattern may ask for. -/
inductive NumberField where
  | year
  | century
  | yearOfCentury
  | isoYear
  | month
  | day
  | weekFromSunday
  | weekFromMonday
  | isoWeek
  | weekdayFromSunday
  | weekdayFromMonday
  | ordinal
  | hour
  | hourOfHalf
  | minute
  | second
  | nano
  | timestamp
deriving DecidableEq, Repr

/-- One item of a pattern. -/
inductive Item where
  | literal (text : List Char)
  | space (text : List Char)
  | number (field : NumberField) (padding : Padding)
  | monthName (long : Bool)
  | weekdayName (long : Bool)
  /-- The half of the day. -/
  | half (capital : Bool)
  /-- A point and as many digits of the second as needed. -/
  | fraction
  /-- A fixed number of digits of the second, with or without a point. -/
  | places (point : Bool) (count : Nat)
  | unknown
deriving DecidableEq, Repr

/-- A pattern, as its items in order. -/
abbrev Pattern := List Item

namespace Pattern

/-- A number padded with zeros. -/
def zeros (f : NumberField) : Item :=
  .number f .zero

/-- Hour, minute and second with colons between them. -/
def clock : Pattern :=
  [zeros .hour, .literal [':'], zeros .minute, .literal [':'], zeros .second]

/-- Month, day and two-digit year with slashes between them. -/
def slashDate : Pattern :=
  [zeros .month, .literal ['/'], zeros .day, .literal ['/'], zeros .yearOfCentury]

/-- The items of a directive of one letter. -/
def letterItems : Char → Option Pattern
  | 'Y' => some [zeros .year]
  | 'C' => some [zeros .century]
  | 'y' => some [zeros .yearOfCentury]
  | 'G' => some [zeros .isoYear]
  | 'm' => some [zeros .month]
  | 'd' => some [zeros .day]
  | 'e' => some [.number .day .space]
  | 'j' => some [zeros .ordinal]
  | 'U' => some [zeros .weekFromSunday]
  | 'W' => some [zeros .weekFromMonday]
  | 'V' => some [zeros .isoWeek]
  | 'w' => some [.number .weekdayFromSunday .none]
  | 'u' => some [.number .weekdayFromMonday .none]
  | 'H' => some [zeros .hour]
  | 'k' => some [.number .hour .space]
  | 'I' => some [zeros .hourOfHalf]
  | 'l' => some [.number .hourOfHalf .space]
  | 'M' => some [zeros .minute]
  | 'S' => some [zeros .second]
  | 'f' => some [zeros .nano]
  | 's' => some [.number .timestamp .none]
  | 'a' => some [.weekdayName false]
  | 'A' => some [.weekdayName true]
  | 'b' => some [.monthName false]
  | 'h' => some [.monthName false]
  | 'B' => some [.monthName true]
  | 'p' => some [.half true]
  | 'P' => some [.half false]
  | 'F' => some [zeros .year, .literal ['-'], zeros .month, .literal ['-'], zeros .day]
  | 'D' => some slashDate
  | 'x' => some slashDate
  | 'v' => some
      [.number .day .space, .literal ['-'], .monthName false, .literal ['-'], zeros .year]
  | 'T' => some clock
  | 'X' => some clock
  | 'R' => some [zeros .hour, .literal [':'], zeros .minute]
  | 'r' => some
      [zeros .hourOfHalf, .literal [':'], zeros .minute, .literal [':'], zeros .second,
       .space [' '], .half true]
  | 'c' => some <|
      [.weekdayName false, .space [' '], .monthName false, .space [' '], .number .day .space,
       .space [' ']] ++ clock ++ [.space [' '], zeros .year]
  | '%' => some [.literal ['%']]
  | _ => none

/-- The padding that a directive's modifier asks for. -/
def modifier? : Char → Option Padding
  | '-' => some .none
  | '0' => some .zero
  | '_' => some .space
  | _ => none

/-- The number of places a digit in a directive asks for. -/
def places? : Char → Option Nat
  | '3' => some 3
  | '6' => some 6
  | '9' => some 9
  | _ => none

/-- A directive without its percent sign: its items, and the pattern after it. -/
def directive? : List Char → Option (Pattern × List Char)
  | '.' :: 'f' :: cs => some ([.fraction], cs)
  | '.' :: n :: 'f' :: cs => (places? n).map fun k => ([.places true k], cs)
  | '.' :: _ => none
  | c :: cs =>
    match modifier? c, places? c, cs with
    | some p, _, d :: ds =>
      match letterItems d with
      | some [.number f _] => some ([.number f p], ds)
      | _ => none
    | none, some k, 'f' :: ds => some ([.places false k], ds)
    | none, none, _ => (letterItems c).map (·, cs)
    | _, _, _ => none
  | [] => none

/-- Whether the character stands for itself and is no white space. -/
def isLiteral (c : Char) : Bool :=
  !(Text.isSpace c || c == '%')

/-- The items of a pattern, of which at most `fuel` are taken; each takes a character at least. -/
def itemsFrom : Nat → List Char → Pattern
  | 0, _ => []
  | _ + 1, [] => []
  | fuel + 1, c :: cs =>
    if c = '%' then
      match directive? cs with
      | some (items, rest) => items ++ itemsFrom fuel rest
      | none => [.unknown]
    else if Text.isSpace c then
      .space (c :: cs.takeWhile Text.isSpace) :: itemsFrom fuel (cs.dropWhile Text.isSpace)
    else
      .literal (c :: cs.takeWhile isLiteral) :: itemsFrom fuel (cs.dropWhile isLiteral)

/-- **The items of a pattern text.** -/
def ofString (s : String) : Pattern :=
  itemsFrom s.length s.toList

end Pattern

/-- The names of the months. -/
def monthNames : List String :=
  ["January", "February", "March", "April", "May", "June", "July", "August", "September",
   "October", "November", "December"]

/-- The names of the days of the week, from Monday. -/
def weekdayNames : List String :=
  ["Monday", "Tuesday", "Wednesday", "Thursday", "Friday", "Saturday", "Sunday"]

/-- The first three letters of a name, which are its short form. -/
def shortName (name : String) : List Char :=
  name.toList.take 3

end RecordSheet.Calendar
