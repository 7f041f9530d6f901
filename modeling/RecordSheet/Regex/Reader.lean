import RecordSheet.Regex.Basic
import RecordSheet.Number.Numeral

/-!
# Regex/Reader — regular expressions read from their usual notation

`Regex.read?` reads a pattern with groups, alternatives, repetitions, character classes with set
operations, anchors, word boundaries and inline flags.  There is no looking around and no reference
back to a group.  Greedy and lazy repetitions describe the same texts, so the mark of laziness is
read and dropped.
-/

namespace RecordSheet.Regex

open Text

/-- The flags in force at a place of a pattern. -/
structure Flags where
  caseless : Bool := false
  multiLine : Bool := false
  dotAll : Bool := false
  swapGreed : Bool := false
  unicode : Bool := true
  crlf : Bool := false
  verbose : Bool := false
deriving DecidableEq, Repr

namespace Flags

/-- The set with all characters that the flags do not tell from a member. -/
def close (f : Flags) (s : CharSet) : CharSet :=
  if f.caseless then if f.unicode then .caseless s else .asciiCaseless s else s

/-- The characters of words. -/
def word (f : Flags) : CharSet :=
  .ranges (if f.unicode then Property.word else asciiWord)

/-- Turns the flag of a letter on or off. -/
def set? (f : Flags) (on : Bool) : Char → Option Flags
  | 'i' => some { f with caseless := on }
  | 'm' => some { f with multiLine := on }
  | 's' => some { f with dotAll := on }
  | 'U' => some { f with swapGreed := on }
  | 'u' => some { f with unicode := on }
  | 'R' => some { f with crlf := on }
  | 'x' => some { f with verbose := on }
  | _ => none

/-- What a point stands for: without Unicode it could split a character, which is refused. -/
def dot? (f : Flags) : Option CharSet :=
  if !f.unicode then none
  else if f.dotAll then some (.complement .none)
  else if f.crlf then some (.complement (.ranges [(0xA, 0xA), (0xD, 0xD)]))
  else some (.complement (.single '\n'))

end Flags

/-- Drops white space and comments, which run from a number sign to the end of the line. -/
def dropSpace (inComment : Bool) : List Char → List Char
  | [] => []
  | c :: cs =>
    if inComment then dropSpace (c != '\n') cs
    else if isSpace c then dropSpace false cs
    else if c = '#' then dropSpace true cs
    else c :: cs

/-- The pattern from the next character that counts. -/
def skip (f : Flags) (cs : List Char) : List Char :=
  if f.verbose then dropSpace false cs else cs

/-! ## Escapes -/

/-- What an escape stands for. -/
inductive Escape where
  | literal (c : Char)
  | set (s : CharSet)
  | assert (a : Assertion)

/-- The value of a hexadecimal digit. -/
def hexValue? (c : Char) : Option Nat :=
  if '0' ≤ c ∧ c ≤ '9' then some (c.toNat - '0'.toNat)
  else if 'a' ≤ c ∧ c ≤ 'f' then some (c.toNat - 'a'.toNat + 10)
  else if 'A' ≤ c ∧ c ≤ 'F' then some (c.toNat - 'A'.toNat + 10)
  else none

/-- The character of a code point in hexadecimal digits, at least one. -/
def charOfHex? (digits : List Char) : Option Char := do
  let values ← digits.mapM hexValue?
  let n := values.foldl (fun n v => 16 * n + v) 0
  if values.isEmpty || !(n < 0xD800 || (0xDFFF < n && n < 0x110000)) then none
  else some (Char.ofNat n)

/-- The character of an escape by code point: `count` digits, or any number between braces. -/
def hexEscape? (f : Flags) (count : Nat) : List Char → Option (Escape × List Char)
  | '\x7b' :: cs => do
    let (digits, rest) := cs.span (· != '\x7d')
    let c ← charOfHex? digits
    match rest with
    | _ :: rest => some (.literal c, rest)
    | [] => none
  | cs => do
    let c ← charOfHex? (cs.take count)
    if cs.length < count then none
    else if !f.unicode && count = 2 && 0x7F < c.toNat then none
    else some (.literal c, cs.drop count)

/-- The set of a property by its name in an escape, which may hold a name and a value. -/
def namedProperty? (name : List Char) : Option CharSet :=
  let (left, right) := name.span fun c => !(c == ':' || c == '=' || c == '!')
  match right with
  | '!' :: '=' :: value =>
    (propertyValue? (String.ofList left) (String.ofList value)).map .complement
  | '=' :: value => propertyValue? (String.ofList left) (String.ofList value)
  | ':' :: value => propertyValue? (String.ofList left) (String.ofList value)
  | _ => property? (String.ofList name)

/-- The set of a property escape: one letter, or a name between braces. -/
def propertyEscape? (f : Flags) (negated : Bool) (cs : List Char) :
    Option (Escape × List Char) := do
  if !f.unicode then none
  else
    let (name, rest) ← match cs with
      | '\x7b' :: cs =>
        match cs.span (· != '\x7d') with
        | (name, _ :: rest) => some (name, rest)
        | _ => none
      | '\\' :: _ => none
      | c :: cs => some ([c], cs)
      | [] => none
    let s := f.close (← namedProperty? name)
    some (.set (if negated then .complement s else s), rest)

/-- A class escape of one letter; a complement could split a character without Unicode. -/
def classEscape? (f : Flags) (negated : Bool) (unicode ascii : CodePoints) : Option Escape :=
  let s := CharSet.ranges (if f.unicode then unicode else ascii)
  if negated then if f.unicode then some (.set (.complement s)) else none
  else some (.set s)

/-- A word boundary: plain, or of the kind named between braces. -/
def boundaryEscape? (f : Flags) (cs : List Char) : Option (Escape × List Char) :=
  let isNameChar (c : Char) : Bool := c.isAlpha || c == '-'
  match cs with
  | ['\x7b'] => none
  | '\x7b' :: c :: ds =>
    if !isNameChar c then some (.assert (.wordBoundary f.word), cs)
    else
      match (c :: ds).span isNameChar with
      | (name, '\x7d' :: rest) =>
        match String.ofList name with
        | "start" => some (.assert (.wordStart f.word), rest)
        | "end" => some (.assert (.wordEnd f.word), rest)
        | "start-half" => some (.assert (.wordStartHalf f.word), rest)
        | "end-half" => some (.assert (.wordEndHalf f.word), rest)
        | _ => none
      | _ => none
  | cs => some (.assert (.wordBoundary f.word), cs)

/-- An escape, after its backslash, and the rest of the pattern. -/
def escape? (f : Flags) : List Char → Option (Escape × List Char)
  | [] => none
  | c :: cs =>
    match c with
    | 'x' => hexEscape? f 2 cs
    | 'u' => hexEscape? f 4 cs
    | 'U' => hexEscape? f 8 cs
    | 'p' => propertyEscape? f false cs
    | 'P' => propertyEscape? f true cs
    | 'd' => (classEscape? f false Category.decimalNumber asciiDigits).map (·, cs)
    | 'D' => (classEscape? f true Category.decimalNumber asciiDigits).map (·, cs)
    | 's' => (classEscape? f false whiteSpace asciiSpace).map (·, cs)
    | 'S' => (classEscape? f true whiteSpace asciiSpace).map (·, cs)
    | 'w' => (classEscape? f false Property.word asciiWord).map (·, cs)
    | 'W' => (classEscape? f true Property.word asciiWord).map (·, cs)
    | 'a' => some (.literal '\x07', cs)
    | 'f' => some (.literal '\x0c', cs)
    | 't' => some (.literal '\t', cs)
    | 'n' => some (.literal '\n', cs)
    | 'r' => some (.literal '\r', cs)
    | 'v' => some (.literal '\x0b', cs)
    | 'A' => some (.assert .textStart, cs)
    | 'z' => some (.assert .textEnd, cs)
    | 'b' => boundaryEscape? f cs
    | 'B' => if f.unicode then some (.assert (.notWordBoundary f.word), cs) else none
    | '<' => some (.assert (.wordStart f.word), cs)
    | '>' => some (.assert (.wordEnd f.word), cs)
    | c => if c.toNat < 0x80 ∧ !c.isAlphanum then some (.literal c, cs) else none

/-! ## Character classes -/

/-- The operations on the sets of a class. -/
inductive SetOp where
  | inter
  | minus
  | oneOf

/-- The set an operation makes of two. -/
def SetOp.apply : SetOp → CharSet → CharSet → CharSet
  | .inter, s, t => .inter s t
  | .minus, s, t => .minus s t
  | .oneOf, s, t => .oneOf s t

/-- A class that is still open: what is in front of its last operation, and its items since. -/
structure OpenClass where
  negated : Bool
  left : Option (SetOp × CharSet)
  items : CharSet

namespace OpenClass

/-- The class with one more item. -/
def add (k : OpenClass) (s : CharSet) : OpenClass :=
  { k with items := .union k.items s }

/-- The set of the class so far. -/
def value (k : OpenClass) : CharSet :=
  match k.left with
  | some (op, s) => op.apply s k.items
  | none => k.items

/-- The class with an operation, whose second set starts empty. -/
def operate (k : OpenClass) (op : SetOp) : OpenClass :=
  { k with left := some (op, k.value), items := .none }

end OpenClass

/-- A class after its opening bracket: hyphens, or else one closing bracket, at the front stand for
themselves. -/
def openClass? (f : Flags) (cs : List Char) : Option (OpenClass × List Char) :=
  let cs := skip f cs
  let (negated, cs) := match cs with
    | '^' :: cs => (true, skip f cs)
    | cs => (false, cs)
  if negated && !f.unicode then none
  else
    let k : OpenClass := ⟨negated, none, .none⟩
    let hyphens := cs.takeWhile (· == '-')
    match hyphens, cs with
    | _ :: _, cs => some (k.add (.single '-'), skip f (cs.drop hyphens.length))
    | [], ']' :: cs => some (k.add (.single ']'), skip f cs)
    | [], cs => some (k, cs)

/-- A class of ASCII characters by name, after its opening bracket. -/
def namedClass? (f : Flags) : List Char → Option (CharSet × List Char)
  | ':' :: cs =>
    let (negated, cs) := match cs with
      | '^' :: cs => (true, cs)
      | cs => (false, cs)
    match cs.span (· != ':') with
    | (name, ':' :: ']' :: rest) =>
      (asciiClass? (String.ofList name)).map fun r =>
        let s := f.close (.ranges r)
        (if negated then .complement s else s, rest)
    | _ => none
  | _ => none

/-- One item of a class: a character or an escape. -/
def classItem? (f : Flags) : List Char → Option (Escape × List Char)
  | [] => none
  | '\\' :: cs => escape? f cs
  | c :: cs => if f.unicode || c.toNat < 0x80 then some (.literal c, cs) else none

/-- Whether a hyphen here joins two ends of a range. -/
def joinsRange (f : Flags) : List Char → Bool
  | '-' :: cs =>
    match skip f cs with
    | ']' :: _ => false
    | '-' :: _ => false
    | _ => true
  | _ => false

/-- A character, a range or a set inside a class. -/
def classRange? (f : Flags) (cs : List Char) : Option (CharSet × List Char) := do
  let (item, rest) ← classItem? f cs
  let rest := skip f rest
  if joinsRange f rest then
    let (last, rest) ← classItem? f (skip f (rest.drop 1))
    match item, last with
    | .literal a, .literal b =>
      if a ≤ b then some (f.close (.ranges [(a.toNat, b.toNat)]), rest) else none
    | _, _ => none
  else
    match item with
    | .literal c => some (f.close (.single c), rest)
    | .set s => some (s, rest)
    | .assert _ => none

/-- The set of a class and the rest of the pattern.  The list holds the open classes, the innermost
first; every round takes a character, and at most `fuel` rounds are made. -/
def class? (f : Flags) : Nat → List OpenClass → List Char → Option (CharSet × List Char)
  | fuel + 1, k :: outer, cs =>
    match skip f cs with
    | [] => none
    | '[' :: cs =>
      match namedClass? f cs with
      | some (s, rest) => class? f fuel (k.add s :: outer) rest
      | none =>
        match openClass? f cs with
        | some (inner, rest) => class? f fuel (inner :: k :: outer) rest
        | none => none
    | ']' :: cs =>
      let s := if k.negated then .complement k.value else k.value
      match outer with
      | [] => some (s, cs)
      | k :: outer => class? f fuel (k.add s :: outer) cs
    | '&' :: '&' :: cs => class? f fuel (k.operate .inter :: outer) cs
    | '-' :: '-' :: cs => class? f fuel (k.operate .minus :: outer) cs
    | '~' :: '~' :: cs => class? f fuel (k.operate .oneOf :: outer) cs
    | cs =>
      match classRange? f cs with
      | some (s, rest) => class? f fuel (k.add s :: outer) rest
      | none => none
  | _, _, _ => none

/-! ## Groups -/

/-- A group that is still open. -/
structure Group where
  /-- The flags after the group. -/
  outer : Flags
  /-- The alternatives that are complete, last first. -/
  branches : List Regex
  /-- The items of the last alternative, last first. -/
  items : List Regex
  /-- Whether a repetition may follow. -/
  repeatable : Bool

namespace Group

/-- A group without items. -/
def start (outer : Flags) : Group :=
  ⟨outer, [], [], false⟩

/-- The group with one more item. -/
def add (g : Group) (r : Regex) : Group :=
  { g with items := r :: g.items, repeatable := true }

/-- The last alternative of the group. -/
def branch (g : Group) : Regex :=
  g.items.foldl (fun rest r => .seq r rest) .empty

/-- The expression of the whole group. -/
def value (g : Group) : Regex :=
  g.branches.foldl (fun rest r => .alt r rest) g.branch

/-- The group with its last item repeated. -/
def repeatLast? (g : Group) (min : Nat) (max : Option Nat) : Option Group :=
  match g.repeatable, g.items with
  | true, r :: items => some { g with items := .rep r min max :: items }
  | _, _ => none

end Group

/-- What stands in a group's parentheses before its expression. -/
inductive GroupHead where
  /-- Flags for the rest of the enclosing group. -/
  | flags (f : Flags)
  /-- An inner group with its flags, and its name if it has one. -/
  | inner (f : Flags) (name : Option String)

/-- Flags up to a colon or a closing parenthesis, with the letters already `seen`; each letter may
stand there once.  The last argument tells whether a hyphen was last. -/
def groupFlags? (f : Flags) (on : Bool) (seen : List Char) (dangling : Bool) :
    List Char → Option (GroupHead × List Char)
  | [] => none
  | ':' :: cs => if dangling then none else some (.inner f none, cs)
  | ')' :: cs => if dangling || seen.isEmpty then none else some (.flags f, cs)
  | c :: cs =>
    if c ∈ seen then none
    else if c = '-' then groupFlags? f false (c :: seen) true cs
    else
      match f.set? on c with
      | some f => groupFlags? f on (c :: seen) false cs
      | none => none

/-- Whether the character may stand in the name of a group. -/
def isNameChar (c : Char) (first : Bool) : Bool :=
  c == '_' || Property.alphabetic.contains c ||
    (!first && (c == '.' || c == '[' || c == ']' || Category.number.contains c))

/-- The name of a group up to its closing angle bracket. -/
def groupName? (cs : List Char) : Option (String × List Char) :=
  match cs.span (· != '>') with
  | (c :: name, _ :: rest) =>
    if isNameChar c true && name.all (isNameChar · false) then
      some (String.ofList (c :: name), rest)
    else none
  | _ => none

/-- The head of a group, after its opening parenthesis. -/
def groupHead? (f : Flags) (cs : List Char) : Option (GroupHead × List Char) :=
  match skip f cs with
  | '?' :: 'P' :: '<' :: cs => (groupName? cs).map fun (n, rest) => (.inner f (some n), rest)
  | '?' :: '<' :: '=' :: _ => none
  | '?' :: '<' :: '!' :: _ => none
  | '?' :: '<' :: cs => (groupName? cs).map fun (n, rest) => (.inner f (some n), rest)
  | '?' :: cs => groupFlags? f true [] false cs
  | cs => some (.inner f none, cs)

/-! ## Repetitions -/

/-- A count between white space. -/
def count? (cs : List Char) : Option (Nat × List Char) :=
  let (digits, rest) := (cs.dropWhile isSpace).span Char.isDigit
  (Number.nat? digits).bind fun n =>
    if n < Nat.pow 2 32 then some (n, rest.dropWhile isSpace) else none

/-- The bounds of a counted repetition, after its opening brace. -/
def bounds? (cs : List Char) : Option ((Nat × Option Nat) × List Char) := do
  let (min, rest) ← count? cs
  match rest with
  | '\x7d' :: rest => some ((min, some min), rest)
  | ',' :: rest =>
    match rest.dropWhile isSpace with
    | '\x7d' :: rest => some ((min, none), rest)
    | _ =>
      match count? rest with
      | some (max, '\x7d' :: rest) => if min ≤ max then some ((min, some max), rest) else none
      | _ => none
  | _ => none

/-- The bounds of the repetition at the front of a pattern, if one stands there, and the rest after
its mark of laziness. -/
def repetition? : List Char → Option (Option ((Nat × Option Nat) × List Char))
  | c :: cs =>
    let lazy (rest : List Char) : List Char := match rest with
      | '?' :: rest => rest
      | rest => rest
    match c with
    | '*' => some (some ((0, none), lazy cs))
    | '+' => some (some ((1, none), lazy cs))
    | '?' => some (some ((0, some 1), lazy cs))
    | '\x7b' => (bounds? cs).map fun (b, rest) => some (b, lazy rest)
    | _ => some none
  | [] => some none

/-! ## Patterns -/

/-- A pattern being read: the flags in force, the names of groups, and the open groups, the
innermost first. -/
structure State where
  flags : Flags
  names : List String
  group : Group
  outer : List Group

namespace State

/-- The state with one more item in the innermost group. -/
def add (s : State) (r : Regex) : State :=
  { s with group := s.group.add r }

/-- The expression of one character, an escape or an anchor at the front of a pattern, and the
rest. -/
def primitive? (f : Flags) : List Char → Option (Regex × List Char)
  | [] => none
  | '\\' :: cs => do
    let (e, rest) ← escape? f cs
    match e with
    | .literal c => some (.chars (f.close (.single c)), rest)
    | .set k => some (.chars k, rest)
    | .assert a => some (.assert a, rest)
  | '.' :: cs => f.dot?.map fun k => (.chars k, cs)
  | '^' :: cs => some (.assert (if f.multiLine then .lineStart f.crlf else .textStart), cs)
  | '$' :: cs => some (.assert (if f.multiLine then .lineEnd f.crlf else .textEnd), cs)
  | c :: cs => some (.chars (f.close (.single c)), cs)

/-- Opens the group whose parenthesis was just taken, or changes the flags. -/
def openGroup? (s : State) (cs : List Char) : Option (State × List Char) := do
  let (head, rest) ← groupHead? s.flags cs
  match head with
  | .flags f => some ({ s with flags := f, group := { s.group with repeatable := false } }, rest)
  | .inner f name =>
    match name with
    | some n =>
      if n ∈ s.names then none
      else some (⟨f, n :: s.names, .start s.flags, s.group :: s.outer⟩, rest)
    | none => some (⟨f, s.names, .start s.flags, s.group :: s.outer⟩, rest)

/-- Closes the innermost group. -/
def closeGroup? (s : State) : Option State :=
  match s.outer with
  | [] => none
  | g :: outer => some ⟨s.group.outer, s.names, g.add s.group.value, outer⟩

/-- Ends an alternative of the innermost group. -/
def nextBranch (s : State) : State :=
  { s with group :=
    { s.group with
      branches := s.group.branch :: s.group.branches, items := [], repeatable := false } }

/-- Takes one item from the front of a pattern that is not at its end. -/
def step? (s : State) : List Char → Option (State × List Char)
  | [] => none
  | '(' :: cs => s.openGroup? cs
  | ')' :: cs => s.closeGroup?.map (·, cs)
  | '|' :: cs => some (s.nextBranch, cs)
  | '[' :: cs => do
    let (k, rest) ← openClass? s.flags cs
    let (set, rest) ← class? s.flags (cs.length + 1) [k] rest
    some (s.add (.chars set), rest)
  | c :: cs => do
    match ← repetition? (c :: cs) with
    | some ((min, max), rest) =>
      (s.group.repeatLast? min max).map fun g => ({ s with group := g }, rest)
    | none => (primitive? s.flags (c :: cs)).map fun (r, rest) => (s.add r, rest)

/-- Takes all items of a pattern; each takes a character at least, so `fuel` may be the length. -/
def run? : Nat → State → List Char → Option Regex
  | 0, _, _ => none
  | fuel + 1, s, cs =>
    match skip s.flags cs with
    | [] => if s.outer.isEmpty then some s.group.value else none
    | cs =>
      match s.step? cs with
      | some (s, rest) => run? fuel s rest
      | none => none

end State

/-- **Reads a regular expression,** if the pattern is one. -/
def read? (pattern : String) : Option Regex :=
  State.run? (pattern.length + 1) ⟨{}, [], .start {}, []⟩ pattern.toList

end RecordSheet.Regex
