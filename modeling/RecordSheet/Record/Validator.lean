import RecordSheet.Failure
import RecordSheet.Regex.Reader

/-!
# Record/Validator — which cell texts an attribute takes

A validator looks at the text of a cell before it is decoded.  It may ask for a pattern, for a
number of characters, or for one of several texts; any other check has a message of its own.
-/

namespace RecordSheet

/-- Why a text is refused. -/
inductive Rejection where
  | noMatch (pattern : String)
  | tooShort (length minimum : Nat)
  | tooLong (length maximum : Nat)
  | notAllowed (allowed : List String)
  | custom (message : String)
deriving DecidableEq, Repr

/-- The text of a rejection. -/
def Rejection.message : Rejection → String
  | .noMatch p => s!"does not match {p}"
  | .tooShort n m => s!"length {n} is below minimum {m}"
  | .tooLong n m => s!"length {n} exceeds maximum {m}"
  | .notAllowed texts =>
    "expected one of \x7b" ++ String.intercalate ", " (texts.map Text.quote) ++ "\x7d"
  | .custom m => m

/-- A check of the text of a cell. -/
structure Validator where
  check : String → Except Rejection Unit

namespace Validator

/-- The pattern for whole texts that match a pattern. -/
def anchored (pattern : String) : String :=
  "^(?:" ++ pattern ++ ")$"

/-- **Takes the texts that match a pattern as a whole.** -/
def regex (pattern : String) : Except SetupFault Validator :=
  match Regex.read? (anchored pattern) with
  | none => .error (.invalidPattern pattern)
  | some r =>
    .ok ⟨fun text => if r.isMatch text then .ok () else .error (.noMatch (anchored pattern))⟩

/-- **Takes the texts whose number of characters is within bounds.** -/
def length (minimum : Nat) (maximum : Option Nat) : Validator where
  check text :=
    let n := text.toList.length
    if n < minimum then .error (.tooShort n minimum)
    else
      match maximum with
      | some m => if m < n then .error (.tooLong n m) else .ok ()
      | none => .ok ()

/-- The distinct texts of a list, in order. -/
def distinct (texts : List String) : List String :=
  (texts.mergeSort fun s t => decide (s ≤ t)).eraseDups

/-- **Takes a few texts only.** -/
def oneOf (allowed : List String) : Validator where
  check text :=
    if text ∈ allowed then .ok () else .error (.notAllowed (distinct allowed))

/-- Takes no text. -/
def refuse (message : String) : Validator where
  check _ := .error (.custom message)

end Validator

end RecordSheet
