import RecordSheet.Text.Bytes

/-!
# Uuid — universally unique identifiers and their text forms

An identifier is 32 hexadecimal digits.  `Uuid.toText` writes it in five groups with hyphens;
`Uuid.read` also reads it without hyphens, between braces and as a URN, in any case, and otherwise
says what is wrong with the text.
-/

namespace RecordSheet

/-- An identifier of 128 bits, as its hexadecimal digits. -/
structure Uuid where
  digits : List (Fin 16)
  length_eq : digits.length = 32
deriving DecidableEq, Repr

namespace Uuid

/-- The lower-case character of a hexadecimal digit. -/
def hexChar (d : Fin 16) : Char :=
  Char.ofNat (if d.val < 10 then '0'.toNat + d.val else 'a'.toNat + (d.val - 10))

/-- The value of a hexadecimal digit in either case. -/
def hexDigit? (c : Char) : Option (Fin 16) :=
  if '0' ≤ c ∧ c ≤ '9' then some (Fin.ofNat 16 (c.toNat - '0'.toNat))
  else if 'a' ≤ c ∧ c ≤ 'f' then some (Fin.ofNat 16 (c.toNat - 'a'.toNat + 10))
  else if 'A' ≤ c ∧ c ≤ 'F' then some (Fin.ofNat 16 (c.toNat - 'A'.toNat + 10))
  else none

/-- The identifier of 32 digits. -/
def ofDigits? (ds : List (Fin 16)) : Option Uuid :=
  if h : ds.length = 32 then some ⟨ds, h⟩ else none

/-- The characters of the hyphenated form. -/
def hyphenated (u : Uuid) : List Char :=
  let cs := u.digits.map hexChar
  cs.take 8 ++ '-' :: (cs.drop 8).take 4 ++ '-' :: (cs.drop 12).take 4 ++
    '-' :: (cs.drop 16).take 4 ++ '-' :: cs.drop 20

/-- **The hyphenated form:** groups of eight, four, four, four and twelve digits. -/
def toText (u : Uuid) : String :=
  String.ofList u.hyphenated

/-! ## Reading -/

/-- Why a text is no identifier. -/
inductive Fault where
  | length (bytes : Nat)
  | character (c : Char) (offset : Nat)
  | groupCount (count : Nat)
  | groupLength (group expected length : Nat)
deriving DecidableEq, Repr

/-- The text of a fault. -/
def Fault.message : Fault → String
  | .length n => s!"invalid length: found {n}"
  | .character c i => s!"invalid character: found `{c}` at {i}"
  | .groupCount n => s!"invalid group count: expected 5, found {n}"
  | .groupLength g e n => s!"invalid group length in group {g}: expected {e}, found {n}"

/-- The text in front of the identifier in a URN. -/
def urnScheme : List Char :=
  "urn:uuid:".toList

/-- The identifier inside a text and the offset at which it starts: without braces around it, or
without the scheme of a URN before it. -/
def unwrap (cs : List Char) : List Char × Nat :=
  match cs with
  | '\x7b' :: rest =>
    if rest.getLast? = some '\x7d' then (rest.dropLast, 1) else (cs, 0)
  | cs =>
    if (cs.take urnScheme.length).map Char.toLower = urnScheme then
      (cs.drop urnScheme.length, urnScheme.length)
    else (cs, 0)

/-- The positions of the hyphens. -/
def hyphens (cs : List Char) : List Nat :=
  (List.range cs.length).filter fun i => cs[i]? = some '-'

/-- Where the first four groups end, and where they start. -/
def groupBounds : List (Nat × Nat) :=
  [(8, 0), (13, 9), (18, 14), (23, 19)]

/-- The identifier of a text in hyphenated form. -/
def ofHyphenated? (cs : List Char) : Option Uuid :=
  if cs.length = 36 ∧ hyphens cs = groupBounds.map Prod.fst then
    ((cs.filter (· != '-')).mapM hexDigit?).bind ofDigits?
  else none

/-- What is wrong with a text that is no identifier. -/
def faultOf (text : String) : Fault :=
  let bytes := text.utf8ByteSize
  let (cs, offset) := unwrap text.toList
  if bytes = 0 ∨ 45 < bytes then .length bytes
  else
    let isWrong (c : Char) : Bool := !(c == '-' || (hexDigit? c).isSome)
    match cs.find? isWrong with
    | some c => .character c (offset + Text.byteLength (cs.takeWhile fun c => !isWrong c))
    | none =>
      let found := hyphens cs
      if found.isEmpty && offset = 0 then .length bytes
      else if found.length ≠ 4 then .groupCount (found.length + 1)
      else
        let wrong := (List.zip found (groupBounds.zipIdx)).find? fun (h, (e, _), _) => h != e
        match wrong with
        | some (h, (e, s), g) => .groupLength g (e - s) (h - s)
        | none => .groupLength 4 12 (bytes - 24)

/-- **Reads an identifier:** 32 digits, the hyphenated form, that form between braces, or as a
URN. -/
def read (text : String) : Except Fault Uuid :=
  let cs := text.toList
  let read? :=
    if cs.length = 32 then (cs.mapM hexDigit?).bind ofDigits?
    else ofHyphenated? (unwrap cs).1
  match read? with
  | some u => .ok u
  | none => .error (faultOf text)

/-- The order of identifiers, by their digits. -/
def before (u v : Uuid) : Bool :=
  decide (u.digits < v.digits)

end Uuid

end RecordSheet
