import RecordSheet.Mapping.CellText

/-!
# Mapping/Route — conversion by a handler or by an expression

There are two ways to convert a cell: by the handler of its type, and by its expression, if anything
evaluates expressions.  The first way that supports a plan is taken; a sound plan is supported by
exactly one.
-/

namespace RecordSheet

/-- A way to convert a cell. -/
inductive Route where
  | handler
  | expression (evaluate : Evaluator)

/-- The ways to convert a cell, in the order in which they are tried. -/
def Options.routes (o : Options) : List Route :=
  .handler :: o.evaluator.toList.map .expression

/-- Whether a way converts the cells of a plan. -/
def Route.supports : Route → Plan → Bool
  | .handler, p => p.usesHandler
  | .expression _, p => p.usesExpression

namespace Plan

/-- The way a plan takes. -/
def route? (p : Plan) (o : Options) : Option Route :=
  o.routes.find? fun r => r.supports p

/-- The fault of a plan that uses an expression and has none. -/
def expressionText (p : Plan) : Except Failure String :=
  match p.expression with
  | some e => .ok e
  | none => .error (.plan (.noExpression p.descriptor.name))

/-! ## Reading -/

/-- The first objection of the validators to a text. -/
def checkText (p : Plan) (text : String) : Except Failure Unit :=
  p.validators.forM fun v =>
    (v.check text).mapError fun r => .validation p.descriptor.name text r.message

/-- The text of the attribute's cell in a row; a missing cell is empty. -/
def cellText (p : Plan) (row : Scope String) : String :=
  (row.get? p.descriptor.name).getD ""

/-- **The value of a cell's text by the handler.**  A blank cell has the fallback's value, and
without one the neutral value; the fallback is not checked. -/
def readText (p : Plan) (c : SequenceCodec) (text : String) : Except Failure Value :=
  if Text.isBlank text then
    match p.fallbackText? with
    | some s => p.decode c p.shape s
    | none => .ok (.neutral p.shape)
  else do
    p.checkText text
    p.decode c p.shape text

/-- The text an expression is given for the attribute's own cell: the fallback stands for a blank
one. -/
def expressionInput (p : Plan) (row : Scope String) : String :=
  let text := p.cellText row
  if Text.isBlank text then (p.fallback.map Fallback.text).getD text else text

/-- The scope an expression reads a row in: all cells as texts, with the attribute's own text. -/
def readScope (p : Plan) (row : Scope String) : Scope Value :=
  (row.map Value.str).insert p.descriptor.name (.str (p.expressionInput row))

/-- The value of a row by the attribute's expression; an absent result is neutral. -/
def readExpression (p : Plan) (evaluate : Evaluator) (row : Scope String) :
    Except Failure Value := do
  let expression ← p.expressionText
  let text := p.expressionInput row
  if !Text.isBlank text then p.checkText text
  let v ← (evaluate expression (p.readScope row)).mapError (p.failure text)
  return if v.isNull then .neutral p.shape else v

/-- The value of the attribute in a row, by one of the ways. -/
def readBy (p : Plan) (c : SequenceCodec) (row : Scope String) : Route → Except Failure Value
  | .handler => p.readText c (p.cellText row)
  | .expression evaluate => p.readExpression evaluate row

/-- **The value of the attribute in a row.** -/
def read (p : Plan) (o : Options) (row : Scope String) : Except Failure Value :=
  match p.route? o with
  | some r => p.readBy o.codec row r
  | none => .error (.plan (.noRoute .read p.descriptor.name p.flags))

/-! ## Writing -/

/-- Puts the fallback for a text that is missing or empty.  It is written as it would be after
reading; where that gives nothing, as it stands. -/
def withFallback (p : Plan) (c : SequenceCodec) (text : Option String) :
    Except Failure (Option String) :=
  match text.filter fun s => !s.isEmpty with
  | some s => .ok (some s)
  | none =>
    match p.fallbackText? with
    | none => .ok none
    | some fallback => do
      let v ← p.decode c p.shape fallback
      let text ← p.encode c p.shape v
      return some ((text.filter fun s => !s.isEmpty).getD fallback)

/-- The text of a result of the attribute's expression. -/
def resultText (p : Plan) (c : SequenceCodec) : Value → Except Failure (Option String)
  | .null => .ok none
  | .str s => .ok (some s)
  | .seq items => p.encode c p.shape (.seq items)
  | v => .ok (some v.toText)

/-- The text of a record's cell by the attribute's expression. -/
def writeExpression (p : Plan) (c : SequenceCodec) (evaluate : Evaluator) (v : Value)
    (scope : Scope Value) : Except Failure (Option String) := do
  let expression ← p.expressionText
  let result ← (evaluate expression scope).mapError fun m => p.failure v.toText m
  p.withFallback c (← p.resultText c result)

/-- The text of the attribute's cell, by one of the ways; `scope` holds all values of the record. -/
def writeBy (p : Plan) (c : SequenceCodec) (v : Value) (scope : Scope Value) :
    Route → Except Failure (Option String)
  | .handler => do p.withFallback c (← p.encode c p.shape v)
  | .expression evaluate => p.writeExpression c evaluate v scope

/-- **The text of the attribute's cell.**  Without a text the cell is left blank. -/
def write (p : Plan) (o : Options) (v : Value) (scope : Scope Value) :
    Except Failure (Option String) :=
  match p.route? o with
  | some r => p.writeBy o.codec v scope r
  | none => .error (.plan (.noRoute .write p.descriptor.name p.flags))

end Plan

end RecordSheet
