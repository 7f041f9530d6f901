import RecordSheet.Handler.Basic

/-!
# Handler/Text — truth values, characters, texts, identifiers and enumeration constants in cells

Texts pass through untouched, and a character is a text of one character.  Truth values, identifiers
and constants are read without the white space around them.
-/

namespace RecordSheet

namespace Handler

/-- The truth value of a word, in any case of its ASCII letters. -/
def truth? (text : String) : Option Bool :=
  let word := text.toList.map Char.toLower
  if word = "true".toList then some true
  else if word = "false".toList then some false
  else none

/-- **The handler of truth values.** -/
def bool : Handler :=
  .ofScalar .bool
    (fun v _ =>
      match v with
      | .bool b => .ok (if b then "true" else "false")
      | v => .error (.unsupported v.kind .bool))
    fun s _ =>
      match truth? (Text.trim s) with
      | some b => .ok (.bool b)
      | none => .error (.notValid (Text.trim s) .bool)

/-- **The handler of characters.** -/
def char : Handler :=
  .ofScalar .char
    (fun v _ =>
      match v with
      | .char c => .ok (String.singleton c)
      | v => .error (.unsupported v.kind .char))
    fun s _ =>
      match s.toList with
      | [c] => .ok (.char c)
      | _ => .error (.notOneCharacter s)

/-- **The handler of texts.** -/
def string : Handler :=
  .ofScalar .string
    (fun v _ =>
      match v with
      | .seq _ => .error (.unsupported v.kind .string)
      | v => .ok v.toText)
    fun s _ => .ok (.str s)

/-- **The handler of identifiers.** -/
def uuid : Handler :=
  .ofScalar .uuid
    (fun v _ =>
      match v with
      | .uuid u => .ok u.toText
      | v => .error (.unsupported v.kind .uuid))
    fun s _ => .uuid <$> (Uuid.read (Text.trim s)).mapError .identifier

/-- **The handler of all enumerations.**  A text that names no constant is an absent value. -/
def enumeration : Handler :=
  .ofScalar (.named "Enum")
    (fun v c =>
      match v with
      | .enumeration s => .ok s
      | .str s => .ok s
      | v => .error (.unsupported v.kind c.element))
    fun s c =>
      match c.element with
      | .enumeration e =>
        match e.constant? (Text.trim s) with
        | some constant => .ok (.enumeration constant)
        | none => .ok .null
      | t => .error (.notEnumeration t)

end Handler

end RecordSheet
