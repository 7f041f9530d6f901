import RecordSheet.Mapping.Plan
import RecordSheet.Sequence.Parse

/-!
# Mapping/CellText — values and texts along a shape

`Plan.decode` reads the text of a cell along the shape of its attribute: a container is a written
sequence whose tokens are read along the shape one level down, and a scalar goes to the handler.
`Plan.encode` writes a value the same way; an absent value is no text at all.  Where no handler
serves the scalar type, reading gives the neutral value and writing gives nothing.
-/

namespace RecordSheet

namespace Plan

/-- The failure to convert a text or value of the attribute. -/
def failure (p : Plan) (raw message : String) : Failure :=
  .conversion p.descriptor.name p.descriptor.type.toText raw message

/-- Reads an element of a written sequence by `one`.  A blank element is neutral, but an inner
sequence cannot be blank. -/
def decodeElement (p : Plan) (inner : Shape) (one : String → Except Failure Value)
    (text token : String) : Except Failure Value :=
  if Text.isBlank token then
    if inner.isContainer then
      .error (p.failure text "nested sequence element must not be empty")
    else .ok (.neutral inner)
  else one token

/-- Reads a sequence of elements of a shape, each by `one`. -/
def decodeSequence (p : Plan) (c : SequenceCodec) (inner : Shape)
    (one : String → Except Failure Value) (text : String) : Except Failure Value := do
  let tokens ← c.parse (Text.trim text)
  let items ← tokens.mapM (p.decodeElement inner one text)
  return .seq items

/-- **The value of a text that is not blank,** along a shape. -/
def decode (p : Plan) (c : SequenceCodec) : Shape → String → Except Failure Value
  | .scalar t, text =>
    match p.handler with
    | none => .ok (.zero t)
    | some h => (h.decode text p.context).mapError (p.failure text)
  | .array s, text => p.decodeSequence c s (p.decode c s) text
  | .iterable s, text => p.decodeSequence c s (p.decode c s) text

/-- Writes a sequence, each element by `one`. -/
def encodeSequence (p : Plan) (c : SequenceCodec)
    (one : Value → Except Failure (Option String)) (v : Value) : Except Failure (Option String) :=
  match v with
  | .null => .ok none
  | .seq items => do
    let tokens ← items.mapM fun item => (·.getD "") <$> one item
    return some (c.serialize tokens)
  | v => .error (p.failure v.toText s!"expected a sequence, got {v.kind}")

/-- **The text of a value,** along a shape. -/
def encode (p : Plan) (c : SequenceCodec) : Shape → Value → Except Failure (Option String)
  | .scalar _, v =>
    if v.isNull then .ok none
    else
      match p.handler with
      | none => .ok none
      | some h => some <$> (h.encode v p.context).mapError fun m => p.failure v.toText m
  | .array s, v => p.encodeSequence c (p.encode c s) v
  | .iterable s, v => p.encodeSequence c (p.encode c s) v

/-- The fallback text, unless it is blank. -/
def fallbackText? (p : Plan) : Option String :=
  (p.fallback.map Fallback.text).filter fun s => !Text.isBlank s

end Plan

end RecordSheet
