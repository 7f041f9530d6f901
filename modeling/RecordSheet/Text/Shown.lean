import RecordSheet.Text.Quoted

/-!
# Text/Shown — data shown in one line

Data is shown for inspection as constructors with their arguments, records with their fields, lists
and sets, all in one line.
-/

namespace RecordSheet.Text

/-- Parts between two marks, with commas. -/
def between (opening closing : String) (parts : List String) : String :=
  opening ++ String.intercalate ", " parts ++ closing

/-- A constructor with arguments. -/
def showCall (name : String) (arguments : List String) : String :=
  between (name ++ "(") ")" arguments

/-- A record with named fields. -/
def showRecord (name : String) (fields : List (String × String)) : String :=
  between (name ++ " \x7b ") " \x7d" (fields.map fun f => f.1 ++ ": " ++ f.2)

/-- A list. -/
def showList (items : List String) : String :=
  between "[" "]" items

/-- A set. -/
def showSet (items : List String) : String :=
  between "\x7b" "\x7d" items

/-- A part that may be missing. -/
def showOption : Option String → String
  | none => "None"
  | some s => showCall "Some" [s]

/-- A truth value. -/
def showBool (b : Bool) : String :=
  if b then "true" else "false"

/-- A text that may be missing. -/
def showText? (s : Option String) : String :=
  showOption (s.map quote)

/-- A list of texts. -/
def showTexts (texts : List String) : String :=
  showList (texts.map quote)

end RecordSheet.Text
