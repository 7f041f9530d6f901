import RecordSheet.Text.Blank
import RecordSheet.Text.CaseMap
import RecordSheet.Text.Script

/-!
# Regex/CharSet — the sets of characters a pattern can name

A set is built from ranges of code points by the set operations and by closing it under a change of
case.  `CharSet.contains` decides membership; the named sets are the classes of the ASCII character
set and the properties of Unicode.
-/

namespace RecordSheet.Regex

open Text

/-- A set of characters. -/
inductive CharSet where
  | ranges (r : CodePoints)
  /-- All characters that are the same letter as a member. -/
  | caseless (s : CharSet)
  /-- The members and those that differ from one in the case of an ASCII letter. -/
  | asciiCaseless (s : CharSet)
  | complement (s : CharSet)
  | union (s t : CharSet)
  | inter (s t : CharSet)
deriving Repr, Inhabited

namespace CharSet

/-- Whether the character is a member of the set. -/
def contains : CharSet → Char → Bool
  | .ranges r, c => r.contains c
  | .caseless s, c => (orbit c).any s.contains
  | .asciiCaseless s, c => s.contains c || s.contains c.toLower || s.contains c.toUpper
  | .complement s, c => !s.contains c
  | .union s t, c => s.contains c || t.contains c
  | .inter s t, c => s.contains c && t.contains c

/-- The set without members. -/
def none : CharSet :=
  .ranges []

/-- The set of one character. -/
def single (c : Char) : CharSet :=
  .ranges [(c.toNat, c.toNat)]

/-- The members of `s` that are not in `t`. -/
def minus (s t : CharSet) : CharSet :=
  .inter s (.complement t)

/-- The members of exactly one of the two sets. -/
def oneOf (s t : CharSet) : CharSet :=
  .union (minus s t) (minus t s)

end CharSet

/-- The ASCII digits. -/
def asciiDigits : CodePoints :=
  [(0x30, 0x39)]

/-- The ASCII letters, digits and the low line. -/
def asciiWord : CodePoints :=
  [(0x30, 0x39), (0x41, 0x5A), (0x5F, 0x5F), (0x61, 0x7A)]

/-- The ASCII white space. -/
def asciiSpace : CodePoints :=
  [(0x9, 0xD), (0x20, 0x20)]

/-- The classes of ASCII characters by name. -/
def asciiClass? : String → Option CodePoints
  | "alnum" => some [(0x30, 0x39), (0x41, 0x5A), (0x61, 0x7A)]
  | "alpha" => some [(0x41, 0x5A), (0x61, 0x7A)]
  | "ascii" => some [(0x0, 0x7F)]
  | "blank" => some [(0x9, 0x9), (0x20, 0x20)]
  | "cntrl" => some [(0x0, 0x1F), (0x7F, 0x7F)]
  | "digit" => some asciiDigits
  | "graph" => some [(0x21, 0x7E)]
  | "lower" => some [(0x61, 0x7A)]
  | "print" => some [(0x20, 0x7E)]
  | "punct" => some [(0x21, 0x2F), (0x3A, 0x40), (0x5B, 0x60), (0x7B, 0x7E)]
  | "space" => some asciiSpace
  | "upper" => some [(0x41, 0x5A)]
  | "word" => some asciiWord
  | "xdigit" => some [(0x30, 0x39), (0x41, 0x46), (0x61, 0x66)]
  | _ => none

/-- A property name without case, spaces, hyphens and low lines, and without a leading `is`. -/
def plainName (s : String) : String :=
  let cs := (s.toList.filter fun c => !(c == ' ' || c == '-' || c == '_')).map Char.toLower
  match cs with
  | 'i' :: 's' :: c :: rest => String.ofList (c :: rest)
  | _ => String.ofList cs

/-- The general categories by their plain short and long names. -/
def category? : String → Option CharSet
  | "l" | "letter" => some (.ranges Category.letter)
  | "lc" | "casedletter" => some (.ranges Category.casedLetter)
  | "lu" | "uppercaseletter" => some (.ranges Category.uppercaseLetter)
  | "ll" | "lowercaseletter" => some (.ranges Category.lowercaseLetter)
  | "lt" | "titlecaseletter" => some (.ranges Category.titlecaseLetter)
  | "lm" | "modifierletter" => some (.ranges Category.modifierLetter)
  | "lo" | "otherletter" => some (.ranges Category.otherLetter)
  | "m" | "mark" | "combiningmark" => some (.ranges Category.mark)
  | "mn" | "nonspacingmark" => some (.ranges Category.nonspacingMark)
  | "mc" | "spacingmark" => some (.ranges Category.spacingMark)
  | "me" | "enclosingmark" => some (.ranges Category.enclosingMark)
  | "n" | "number" => some (.ranges Category.number)
  | "nd" | "decimalnumber" | "digit" => some (.ranges Category.decimalNumber)
  | "nl" | "letternumber" => some (.ranges Category.letterNumber)
  | "no" | "othernumber" => some (.ranges Category.otherNumber)
  | "p" | "punctuation" | "punct" => some (.ranges Category.punctuation)
  | "pc" | "connectorpunctuation" => some (.ranges Category.connectorPunctuation)
  | "pd" | "dashpunctuation" => some (.ranges Category.dashPunctuation)
  | "ps" | "openpunctuation" => some (.ranges Category.openPunctuation)
  | "pe" | "closepunctuation" => some (.ranges Category.closePunctuation)
  | "pi" | "initialpunctuation" => some (.ranges Category.initialPunctuation)
  | "pf" | "finalpunctuation" => some (.ranges Category.finalPunctuation)
  | "po" | "otherpunctuation" => some (.ranges Category.otherPunctuation)
  | "s" | "symbol" => some (.ranges Category.symbol)
  | "sm" | "mathsymbol" => some (.ranges Category.mathSymbol)
  | "sc" | "currencysymbol" => some (.ranges Category.currencySymbol)
  | "sk" | "modifiersymbol" => some (.ranges Category.modifierSymbol)
  | "so" | "othersymbol" => some (.ranges Category.otherSymbol)
  | "z" | "separator" => some (.ranges Category.separator)
  | "zs" | "spaceseparator" => some (.ranges Category.spaceSeparator)
  | "zl" | "lineseparator" => some (.ranges Category.lineSeparator)
  | "zp" | "paragraphseparator" => some (.ranges Category.paragraphSeparator)
  | "c" | "other" => some (.complement (.ranges (Category.graphic ++ Category.separator)))
  | "cc" | "control" | "cntrl" => some (.ranges Category.control)
  | "cf" | "format" => some (.ranges Category.format)
  | "co" | "privateuse" => some (.ranges Category.privateUse)
  | "cn" | "unassigned" => some (.complement (.ranges Category.assigned))
  | "any" => some (.complement .none)
  | "assigned" => some (.ranges Category.assigned)
  | "ascii" => some (.ranges [(0x0, 0x7F)])
  | _ => none

/-- The scripts by their plain names. -/
def script? : String → Option CharSet
  | "latin" | "latn" => some (.ranges Script.latin)
  | "greek" | "grek" => some (.ranges Script.greek)
  | "cyrillic" | "cyrl" => some (.ranges Script.cyrillic)
  | "han" | "hani" => some (.ranges Script.han)
  | "hiragana" | "hira" => some (.ranges Script.hiragana)
  | "katakana" | "kana" => some (.ranges Script.katakana)
  | "arabic" | "arab" => some (.ranges Script.arabic)
  | "hebrew" | "hebr" => some (.ranges Script.hebrew)
  | "thai" => some (.ranges Script.thai)
  | "devanagari" | "deva" => some (.ranges Script.devanagari)
  | "hangul" | "hang" => some (.ranges Script.hangul)
  | "armenian" | "armn" => some (.ranges Script.armenian)
  | "georgian" | "geor" => some (.ranges Script.georgian)
  | _ => none

/-- The properties that a character has or lacks, by their plain names. -/
def binaryProperty? : String → Option CharSet
  | "alphabetic" | "alpha" => some (.ranges Property.alphabetic)
  | "lowercase" | "lower" => some (.ranges Property.lowercase)
  | "uppercase" | "upper" => some (.ranges Property.uppercase)
  | "cased" => some (.ranges Property.cased)
  | "caseignorable" | "ci" => some (.ranges Property.caseIgnorable)
  | "graphemeextend" | "grext" => some (.ranges Property.graphemeExtend)
  | "whitespace" | "wspace" | "space" => some (.ranges whiteSpace)
  | _ => none

/-- The set of a property given by one name, such as a category or a script. -/
def property? (name : String) : Option CharSet :=
  let n := plainName name
  category? n <|> script? n <|> binaryProperty? n

/-- The set of a property given by a name and a value. -/
def propertyValue? (name value : String) : Option CharSet :=
  match plainName name with
  | "gc" | "generalcategory" => category? (plainName value)
  | "sc" | "script" => script? (plainName value)
  | _ => none

end RecordSheet.Regex
