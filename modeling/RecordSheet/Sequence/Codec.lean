import RecordSheet.Text.Bytes
import RecordSheet.Text.Quoted

/-!
# Sequence/Codec — sequences written between brackets

A sequence of tokens is written as one text: an opening bracket, the tokens with the delimiter
between them, a closing bracket.  There is no escaping; a token may itself be a bracketed sequence
and is then one token of the outer one.  `scan` goes over the outer level of such a text; `split`
keeps the tokens that it comes by, and `length` counts them.  `matchingCloser` finds the bracket
that closes the first one opened.
-/

namespace RecordSheet

/-- The brackets and the delimiter of a written sequence. -/
structure SequenceCodec where
  opener : Char := '['
  closer : Char := ']'
  delimiter : String := ", "
deriving DecidableEq, Repr, Inhabited

namespace SequenceCodec

/-! ## Usable codecs -/

/-- Why a choice of brackets and delimiter cannot be read back. -/
inductive Fault where
  | equalBrackets (bracket : Char)
  | emptyDelimiter
  | bracketInDelimiter (delimiter : String) (opener closer : Char)
deriving DecidableEq, Repr

/-- The text of a fault. -/
def Fault.message : Fault → String
  | .equalBrackets b =>
    s!"Sequence opener and closer must differ, got {Text.quoteChar b} twice."
  | .emptyDelimiter => "Sequence delimiter must not be empty."
  | .bracketInDelimiter d o c =>
    s!"Sequence delimiter {Text.quote d} must not contain {Text.quoteChar o} or {Text.quoteChar c}."

/-- The first fault of the codec, if it has one: the brackets differ, and the delimiter is a text
without brackets. -/
def validate (c : SequenceCodec) : Except Fault Unit :=
  if c.opener = c.closer then .error (.equalBrackets c.opener)
  else if c.delimiter.isEmpty then .error .emptyDelimiter
  else if c.opener ∈ c.delimiter.toList ∨ c.closer ∈ c.delimiter.toList then
    .error (.bracketInDelimiter c.delimiter c.opener c.closer)
  else .ok ()

/-- A codec of the given parts, if they can be read back. -/
def make (opener closer : Char) (delimiter : String) : Except Fault SequenceCodec := do
  let c : SequenceCodec := ⟨opener, closer, delimiter⟩
  c.validate
  return c

/-! ## Writing -/

/-- The characters of the tokens with the delimiter between them. -/
def joinChars (c : SequenceCodec) : List (List Char) → List Char
  | [] => []
  | [t] => t
  | t :: ts => t ++ c.delimiter.toList ++ joinChars c ts

/-- **The written form of a sequence of tokens.** -/
def serialize (c : SequenceCodec) (tokens : List String) : String :=
  String.ofList (c.opener :: c.joinChars (tokens.map String.toList) ++ [c.closer])

/-! ## Brackets -/

/-- The characters up to the bracket that closes the first one opened, and the rest.

`depth` brackets are open already.  There is no such bracket when one closes before any opens, or
when the text ends first. -/
def group (c : SequenceCodec) (depth : Nat) : List Char → Option (List Char × List Char)
  | [] => none
  | x :: xs =>
    if x = c.opener then
      (c.group (depth + 1) xs).map fun (g, rest) => (x :: g, rest)
    else if x = c.closer then
      if depth = 0 then none
      else if depth = 1 then some ([x], xs)
      else (c.group (depth - 1) xs).map fun (g, rest) => (x :: g, rest)
    else
      (c.group depth xs).map fun (g, rest) => (x :: g, rest)

/-- **A group and what follows it make up the text, and the group is not empty.** -/
theorem group_eq_append {c : SequenceCodec} {depth : Nat} {cs g rest : List Char}
    (h : c.group depth cs = some (g, rest)) : cs = g ++ rest ∧ g ≠ [] := by
  induction cs generalizing depth g rest with
  | nil => simp [group] at h
  | cons x xs ih =>
    have step : ∀ {d : Nat}, (c.group d xs).map (fun (g, rest) => (x :: g, rest)) = some (g, rest) →
        x :: xs = g ++ rest ∧ g ≠ [] := by
      intro d hd
      obtain ⟨⟨g', rest'⟩, hg, heq⟩ := Option.map_eq_some_iff.1 hd
      obtain ⟨rfl, rfl⟩ := Prod.mk.inj heq
      exact ⟨by rw [(ih hg).1, List.cons_append], by simp⟩
    rw [group] at h
    split at h
    · exact step h
    · split at h
      · split at h
        · simp at h
        · split at h
          · obtain ⟨rfl, rfl⟩ := Prod.mk.inj (Option.some.inj h)
            simp
          · exact step h
      · exact step h

/-- The byte offset in `text` of the bracket that closes the first one opened from offset `start`
on. -/
def matchingCloser (c : SequenceCodec) (text : String) (start : Nat) : Option Nat :=
  (c.group 0 (Text.dropBytes start text.toList)).map fun (g, _) =>
    start + Text.byteLength g - c.closer.utf8Size

/-! ## Reading -/

/-- Why a text is not a written sequence. -/
inductive SplitFault where
  | notBracketed (opener closer : Char)
  | unclosed (opener : Char) (offset : Nat)
  | unbalanced (closer : Char) (offset : Nat)
deriving DecidableEq, Repr

/-- The text of a fault. -/
def SplitFault.message : SplitFault → String
  | .notBracketed o c =>
    s!"sequence must start with {Text.quoteChar o} and end with {Text.quoteChar c}"
  | .unclosed o n => s!"unclosed {Text.quoteChar o} at byte {n}"
  | .unbalanced c n => s!"unbalanced {Text.quoteChar c} at byte {n}"

/-- The characters between the outer brackets, if the text has both. -/
def body? (c : SequenceCodec) : List Char → Option (List Char)
  | [] => none
  | x :: xs => if x = c.opener ∧ xs.getLast? = some c.closer then some xs.dropLast else none

/-- Whether the text stands between the codec's brackets. -/
def isBracketed (c : SequenceCodec) (text : String) : Bool :=
  (c.body? text.toList).isSome

/-- Puts characters in front of the first token. -/
def extend (front : List Char) : List (List Char) → List (List Char)
  | [] => [front]
  | t :: ts => (front ++ t) :: ts

/-- The tokens of a body that starts at byte `offset` of its text.

At the outer level a delimiter ends a token, an opening bracket takes its whole group into the
token, and a closing bracket has no partner. -/
def tokens (c : SequenceCodec) (offset : Nat) : List Char → Except SplitFault (List (List Char))
  | [] => .ok [[]]
  | x :: xs =>
    let d := c.delimiter.toList
    if _hd : d ≠ [] ∧ d.isPrefixOf (x :: xs) then
      ([] :: ·) <$> tokens c (offset + Text.byteLength d) ((x :: xs).drop d.length)
    else if x = c.opener then
      match _hg : c.group 0 (x :: xs) with
      | none => .error (.unclosed c.opener offset)
      | some (g, rest) => extend g <$> tokens c (offset + Text.byteLength g) rest
    else if x = c.closer then
      .error (.unbalanced c.closer offset)
    else
      extend [x] <$> tokens c (offset + x.utf8Size) xs
termination_by cs => cs.length
decreasing_by
  · have hd := List.length_pos_iff.2 _hd.1
    simp only [List.length_drop, List.length_cons]
    exact Nat.sub_lt (Nat.succ_pos _) hd
  · have := group_eq_append _hg
    have := List.length_pos_iff.2 this.2
    have := congrArg List.length (group_eq_append _hg).1
    simp only [List.length_append] at this
    omega
  · simp

/-- The tokens that a scan of the outer level comes by, in order; an empty body has none. -/
def scan (c : SequenceCodec) (text : String) : Except SplitFault (List (List Char)) :=
  match c.body? text.toList with
  | none => .error (.notBracketed c.opener c.closer)
  | some [] => .ok []
  | some body => c.tokens c.opener.utf8Size body

/-- **The tokens of a written sequence.**  Inner sequences stay whole. -/
def split (c : SequenceCodec) (text : String) : Except SplitFault (List String) :=
  List.map String.ofList <$> c.scan text

/-- The number of tokens of a written sequence, of which none is kept. -/
def length (c : SequenceCodec) (text : String) : Except SplitFault Nat :=
  List.length <$> c.scan text

end SequenceCodec

end RecordSheet
