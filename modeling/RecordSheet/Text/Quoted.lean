import RecordSheet.Text.Property

/-!
# Text/Quoted — texts and characters shown between quotes

A text in a message stands between double quotes and a character between single ones.  Inside, the
quote of that kind and the backslash take a backslash before them, the common controls have a letter
each, and every other character without a visible form is written by its code point.
-/

namespace RecordSheet.Text

/-- Whether the character is shown as it is: it has a visible form, or is the plain space. -/
def isVisible (c : Char) : Bool :=
  if c.toNat < 0x7F then decide (0x20 ≤ c.toNat)
  else Category.graphic.contains c && !Property.graphemeExtend.contains c

/-- A character by its code point, in lower-case hexadecimal between braces. -/
def codePointEscape (c : Char) : List Char :=
  ['\\', 'u', '{'] ++ Nat.toDigits 16 c.toNat ++ ['}']

/-- A character as it is written between two quotes `mark`. -/
def escapeChar (mark c : Char) : List Char :=
  if c = mark ∨ c = '\\' then ['\\', c]
  else if c = '\n' then ['\\', 'n']
  else if c = '\r' then ['\\', 'r']
  else if c = '\t' then ['\\', 't']
  else if c = Char.ofNat 0 then ['\\', '0']
  else if isVisible c then [c]
  else codePointEscape c

/-- **A text between double quotes.** -/
def quote (s : String) : String :=
  String.ofList ('"' :: s.toList.flatMap (escapeChar '"') ++ ['"'])

/-- **A character between single quotes.** -/
def quoteChar (c : Char) : String :=
  String.ofList ('\'' :: escapeChar '\'' c ++ ['\''])

end RecordSheet.Text
