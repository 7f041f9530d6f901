import RecordSheet.Regex.CharSet

/-!
# Regex/Basic — regular expressions and the texts they match

A regular expression describes stretches of a text, and may assert conditions on the characters on
both sides of a position.  `Regex.reach` computes, for a set of positions at once, where a stretch
that starts at one of them may end; a set of positions of a text of `n` characters is a list of
`n + 1` truth values.
-/

namespace RecordSheet

namespace Regex

/-- A condition on a position between two characters. -/
inductive Assertion where
  | textStart
  | textEnd
  | lineStart (crlf : Bool)
  | lineEnd (crlf : Bool)
  | wordBoundary (word : CharSet)
  | notWordBoundary (word : CharSet)
  | wordStart (word : CharSet)
  | wordEnd (word : CharSet)
  | wordStartHalf (word : CharSet)
  | wordEndHalf (word : CharSet)
deriving Repr

namespace Assertion

/-- Whether the assertion holds between the character before a position and the one after it. -/
def holds (a : Assertion) (before after : Option Char) : Bool :=
  let inWord (w : CharSet) (c : Option Char) : Bool := c.any w.contains
  match a with
  | .textStart => before.isNone
  | .textEnd => after.isNone
  | .lineStart false => before.isNone || before == some '\n'
  | .lineStart true =>
    before.isNone || before == some '\n' || (before == some '\r' && after != some '\n')
  | .lineEnd false => after.isNone || after == some '\n'
  | .lineEnd true =>
    after.isNone || after == some '\r' || (after == some '\n' && before != some '\r')
  | .wordBoundary w => inWord w before != inWord w after
  | .notWordBoundary w => inWord w before == inWord w after
  | .wordStart w => !inWord w before && inWord w after
  | .wordEnd w => inWord w before && !inWord w after
  | .wordStartHalf w => !inWord w before
  | .wordEndHalf w => !inWord w after

end Assertion

end Regex

/-- A regular expression. -/
inductive Regex where
  | empty
  | chars (s : Regex.CharSet)
  | assert (a : Regex.Assertion)
  | seq (r s : Regex)
  | alt (r s : Regex)
  /-- At least `min` stretches in a row, and at most `max` if there is a bound. -/
  | rep (r : Regex) (min : Nat) (max : Option Nat)
deriving Repr, Inhabited

namespace Regex

/-- A set of positions of a text. -/
abbrev Positions := List Bool

namespace Positions

/-- The positions in either set. -/
def union (p q : Positions) : Positions :=
  List.zipWith (· || ·) p q

/-- Adds to a set what a step leads to, again and again, until nothing is new or `n` rounds are
over. -/
def closure (step : Positions → Positions) : Nat → Positions → Positions
  | 0, p => p
  | n + 1, p =>
    let next := union p (step p)
    if next = p then p else closure step n next

/-- The result of `n` steps. -/
def iterate (step : Positions → Positions) : Nat → Positions → Positions
  | 0, p => p
  | n + 1, p => iterate step n (step p)

end Positions

/-- The pairs of characters before and after each position of a text. -/
def contexts (text : List Char) : List (Option Char × Option Char) :=
  List.zip (none :: text.map some) (text.map some ++ [none])

/-- The positions at which a stretch may end when it starts at one of the given positions. -/
def reach (text : List Char) : Regex → Positions → Positions
  | .empty, p => p
  | .chars s, p => false :: List.zipWith (fun here c => here && s.contains c) p text
  | .assert a, p => List.zipWith (fun here (b, c) => here && a.holds b c) p (contexts text)
  | .seq r s, p => s.reach text (r.reach text p)
  | .alt r s, p => Positions.union (r.reach text p) (s.reach text p)
  | .rep r min max, p =>
    let start := Positions.iterate (r.reach text) min p
    let rounds := match max with
      | none => text.length + 1
      | some m => m - min
    Positions.closure (r.reach text) rounds start

/-- **Whether the expression describes some stretch of the text.** -/
def isMatch (r : Regex) (text : String) : Bool :=
  let cs := text.toList
  (r.reach cs (List.replicate (cs.length + 1) true)).any id

end Regex

end RecordSheet
