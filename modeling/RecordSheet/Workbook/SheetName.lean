import RecordSheet.Number.Numeral
import RecordSheet.Scope
import RecordSheet.Text.Blank
import RecordSheet.Text.CaseMap

/-!
# Workbook/SheetName — names that worksheets may have

The name of a worksheet has at most 31 characters, none of a few punctuation marks, and no
apostrophe at an end.  `clean` makes a usable name of any text, and `unique` gives a name that no
other sheet has in any case of its letters: the name itself, or the first of its numbered variants
that is free.
-/

namespace RecordSheet.SheetName

/-- The number of characters a name may have. -/
def maxLength : Nat := 31

/-- The characters a name may not have. -/
def illegal : List Char := ['*', ':', '?', '/', '\\', '[', ']']

/-- The name of a sheet whose own name comes to nothing. -/
def fallback : String := "Sheet"

/-- Why a worksheet cannot have a name. -/
inductive Fault where
  | blank
  | tooLong (name : String)
  | illegalCharacter (name : String)
  | apostropheAtEnd (name : String)
deriving DecidableEq, Repr

/-- The text of a fault. -/
def Fault.message (f : Fault) : String :=
  let call (name : String) : String := "Worksheet name 'worksheet.set_name(\"" ++ name ++ "\")' "
  match f with
  | .blank => call "" ++ "cannot be blank."
  | .tooLong n => call n ++ "exceeds Excel's limit of 31 characters."
  | .illegalCharacter n => call n ++ "cannot contain invalid characters: '[ ] : * ? / \\'."
  | .apostropheAtEnd n => call n ++ "cannot start or end with an apostrophe."

/-- The first fault of a name, if it has one. -/
def check (name : String) : Except Fault Unit :=
  let cs := name.toList
  if cs = [] then .error .blank
  else if maxLength < cs.length then .error (.tooLong name)
  else if cs.any fun c => c ∈ illegal then .error (.illegalCharacter name)
  else if cs.head? = some '\'' ∨ cs.getLast? = some '\'' then .error (.apostropheAtEnd name)
  else .ok ()

/-- Whether a character is dropped from the ends of a name. -/
def isDropped (c : Char) : Bool :=
  Text.isSpace c || c = '\''

/-- The characters of a clean name. -/
def cleanChars (replacement : Char) (cs : List Char) : List Char :=
  let legal := cs.map fun c => if c ∈ illegal then replacement else c
  (Text.stripChars isDropped legal).take maxLength

/-- **A usable name made of a text.**  Illegal characters are replaced, white space and apostrophes
dropped from the ends, and what is too long is cut off. -/
def clean (replacement : Char) (name : String) : String :=
  match cleanChars replacement name.toList with
  | [] => fallback
  | cs => String.ofList cs

/-- The variant of a name with a number, cut to the length of a name. -/
def variant (name : String) (n : Nat) : String :=
  let suffix := '_' :: '_' :: Number.numeral n
  String.ofList (name.toList.take (maxLength - suffix.length) ++ suffix)

/-- Whether a name is taken, in any case of its letters. -/
def isTaken (taken : Scope Unit) (name : String) : Bool :=
  (taken.get? (Text.lower name)).isSome

/-- The names taken when one more is. -/
def take (taken : Scope Unit) (name : String) : Scope Unit :=
  taken.insert (Text.lower name) ()

/-- The first free variant of a name from number `n` on, in at most the given number of trials. -/
def firstFree (taken : Scope Unit) (name : String) : Nat → Nat → Option String
  | 0, _ => none
  | trials + 1, n =>
    if isTaken taken (variant name n) then firstFree taken name trials (n + 1)
    else some (variant name n)

/-- **A name that is not taken, and the names taken with it.**  One variant more than there are
names taken is enough to find a free one. -/
def unique (taken : Scope Unit) (name : String) : String × Scope Unit :=
  if isTaken taken name then
    let free := (firstFree taken name (taken.entries.length + 1) 2).getD name
    (free, take taken free)
  else (name, take taken name)

end RecordSheet.SheetName
