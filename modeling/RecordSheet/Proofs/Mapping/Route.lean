import RecordSheet.Mapping.Route
import RecordSheet.Proofs.Mapping.CellText

/-!
# Proofs/Mapping/Route — the way to a cell and back

Writing ends with the fallback, whichever way is taken (`write_eq_bind`), and never gives an empty
text.  A plan is **plain** when its cells go through the handler unchecked: reading and writing are
then `decode` and `encode` with a rule for blank cells.  A value survives a plain plan when it comes
back from its text, or leaves no text, is neutral and has no fallback (`Survives.exists_text`).
-/

namespace RecordSheet

namespace Plan

variable {p q : Plan} {o : Options}

/-- The two plans give a cell the same meaning. -/
structure Agrees (p q : Plan) : Prop where
  handler : p.handler = q.handler
  context : p.context = q.context
  shape : p.shape = q.shape
  fallback : p.fallback = q.fallback

/-- **Decoding looks at the handler and at what it is told about the cell,** and at nothing else of
the plan. -/
theorem decode_congr (hh : p.handler = q.handler) (hx : p.context = q.context) (c : SequenceCodec)
    (s : Shape) : p.decode c s = q.decode c s := by
  have hfail : p.failure = q.failure := by
    have hd : p.descriptor = q.descriptor := congrArg HandlerContext.descriptor hx
    funext raw message
    rw [failure, failure, hd]
  induction s with
  | scalar t =>
    funext text
    rw [decode, decode, hh, hx, hfail]
  | array s ih | iterable s ih =>
    funext text
    have helem : p.decodeElement s = q.decodeElement s := by
      funext one whole token
      rw [decodeElement, decodeElement, hfail]
    rw [decode, decode, ih, decodeSequence, decodeSequence, helem]

/-! ## The fallback -/

section Fallback

variable {c : SequenceCodec} {text : Option String} {d : String}

theorem fallbackText?_eq_none_iff :
    p.fallbackText? = none ↔ ∀ d ∈ p.fallback, Text.isBlank d.text = true := by
  rw [fallbackText?, Option.filter_eq_none_iff]
  constructor
  · intro h d hd
    simpa using h d.text (Option.mem_map_of_mem _ hd)
  · intro h text htext
    obtain ⟨d, hd, rfl⟩ := Option.map_eq_some_iff.1 htext
    simpa using h d hd

theorem isBlank_fallbackText (h : p.fallbackText? = some d) : Text.isBlank d = false := by
  simpa using (Option.filter_eq_some_iff.1 h).2

/-- A cell that is not blank is decoded if no validator looks at it. -/
theorem readText_of_visible (hp : p.validators = []) {s : String} (hv : Text.isBlank s = false) :
    p.readText c s = p.decode c p.shape s := by
  have hcheck : p.checkText s = .ok () := by
    rw [checkText, hp]
    rfl
  rw [readText, hv, hcheck]
  rfl

/-- A blank cell is read as the fallback. -/
theorem readText_of_blank (hd : p.fallbackText? = some d) {s : String}
    (hb : Text.isBlank s = true) :
    p.readText c s = p.decode c p.shape d := by
  rw [readText, if_pos hb, hd]

/-- A text that is not empty stands against any fallback. -/
theorem withFallback_some {s : String} (h : s ≠ "") : p.withFallback c (some s) = .ok (some s) := by
  rw [withFallback, Option.filter_some_pos (by simpa using h)]

/-- An empty text is treated as none. -/
theorem withFallback_of_empty (h : text.getD "" = "") :
    p.withFallback c text = p.withFallback c none := by
  cases text with
  | none => rfl
  | some s =>
    obtain rfl : s = "" := h
    rfl

theorem withFallback_none (hf : p.fallbackText? = none) : p.withFallback c none = .ok none := by
  rw [withFallback, Option.filter_none, hf]

/-- **The fallback stands for no text:** it is read and written again, and as it is if that gives
nothing. -/
theorem withFallback_none_of_some (hd : p.fallbackText? = some d) :
    p.withFallback c none = (do
      let v ← p.decode c p.shape d
      let text ← p.encode c p.shape v
      return some ((text.filter fun s => !s.isEmpty).getD d)) := by
  rw [withFallback, Option.filter_none, hd]

theorem empty_or_exists (text : Option String) :
    text.getD "" = "" ∨ ∃ s, text = some s ∧ s ≠ "" := by
  cases text with
  | none => exact .inl rfl
  | some s => exact (eq_or_ne s "").imp id fun h => ⟨s, rfl, h⟩

/-- Without a fallback an empty text becomes none. -/
theorem withFallback_of_none (hf : p.fallbackText? = none) (text : Option String) :
    ∃ written, p.withFallback c text = .ok written ∧ written.getD "" = text.getD "" := by
  obtain h | ⟨s, rfl, hs⟩ := empty_or_exists text
  · exact ⟨none, (withFallback_of_empty h).trans (withFallback_none hf), h.symm⟩
  · exact ⟨some s, withFallback_some hs, rfl⟩

/-- **What is written** is the text, unless it is empty; then it is nothing without a fallback, and
what the fallback comes to with one. -/
theorem withFallback_cases {written : Option String} (h : p.withFallback c text = .ok written) :
    (∃ s, text = some s ∧ s ≠ "" ∧ written = some s) ∨
    (text.getD "" = "" ∧ p.fallbackText? = none ∧ written = none) ∨
    ∃ (d : String) (again : Option String), p.fallbackText? = some d ∧
      written = some ((again.filter fun s => !s.isEmpty).getD d) := by
  obtain hempty | ⟨s, rfl, hs⟩ := empty_or_exists text
  · rw [withFallback_of_empty hempty] at h
    cases hd : p.fallbackText? with
    | none => exact .inr (.inl ⟨hempty, rfl, Except.ok.inj (h.symm.trans (withFallback_none hd))⟩)
    | some d =>
      rw [withFallback_none_of_some hd] at h
      obtain ⟨v, -, h⟩ := Outcome.bind_eq_ok_iff.1 h
      obtain ⟨again, -, h⟩ := Outcome.bind_eq_ok_iff.1 h
      exact .inr (.inr ⟨d, again, rfl, (Except.ok.inj h).symm⟩)
  · exact .inl ⟨s, rfl, hs, Except.ok.inj (h.symm.trans (withFallback_some hs))⟩

/-- **A text that is written is not empty:** an empty one would stand for the fallback, or for none.
-/
theorem withFallback_ne_empty {s : String} (h : p.withFallback c text = .ok (some s)) : s ≠ "" := by
  obtain ⟨_, -, hs, ⟨⟩⟩ | ⟨-, -, ⟨⟩⟩ | ⟨d, again, hd, ⟨⟩⟩ := withFallback_cases h
  · exact hs
  · cases hagain : again.filter fun s => !s.isEmpty with
    | some s =>
      rintro rfl
      exact nomatch (Option.filter_eq_some_iff.1 hagain).2
    | none =>
      rintro rfl
      exact nomatch isBlank_fallbackText hd

/-- **Nothing is written** for an empty text without a fallback. -/
theorem withFallback_eq_none_iff :
    p.withFallback c text = .ok none ↔ text.getD "" = "" ∧ p.fallbackText? = none := by
  constructor
  · intro h
    obtain ⟨_, -, -, ⟨⟩⟩ | ⟨hempty, hf, -⟩ | ⟨_, _, -, ⟨⟩⟩ := withFallback_cases h
    exact ⟨hempty, hf⟩
  · rintro ⟨hempty, hf⟩
    exact (withFallback_of_empty hempty).trans (withFallback_none hf)

end Fallback

/-! ## Reading by an expression -/

theorem expressionText_eq_ok {expression : String} (h : p.expression = some expression) :
    p.expressionText = .ok expression := by
  rw [expressionText, h]

/-- The value of a row by an expression, without any check. -/
def expressionValue (p : Plan) (evaluate : Evaluator) (expression : String) (row : Scope String) :
    Except Failure Value := do
  let v ← (evaluate expression (p.readScope row)).mapError (p.failure (p.expressionInput row))
  return if v.isNull then .neutral p.shape else v

theorem readExpression_eq {expression : String} (h : p.expression = some expression)
    (evaluate : Evaluator) (row : Scope String) :
    p.readExpression evaluate row =
      if Text.isBlank (p.expressionInput row) then p.expressionValue evaluate expression row
      else p.checkText (p.expressionInput row) >>= fun _ =>
        p.expressionValue evaluate expression row := by
  rw [readExpression, expressionText_eq_ok h]
  refine (pure_bind expression _).trans ?_
  dsimp only
  cases Text.isBlank (p.expressionInput row) with
  | false | true => rfl

/-! ## What a way gives before the fallback -/

/-- The text that a way gives for a value, before the fallback stands in for it. -/
def textBy (p : Plan) (c : SequenceCodec) (v : Value) (scope : Scope Value) :
    Route → Except Failure (Option String)
  | .handler => p.encode c p.shape v
  | .expression evaluate => do
    let expression ← p.expressionText
    let result ← (evaluate expression scope).mapError fun m => p.failure v.toText m
    p.resultText c result

/-- The text of the attribute's cell, before the fallback stands in for it. -/
def ownText (p : Plan) (o : Options) (v : Value) (scope : Scope Value) :
    Except Failure (Option String) :=
  match p.route? o with
  | some r => p.textBy o.codec v scope r
  | none => .error (.plan (.noRoute .write p.descriptor.name p.flags))

theorem writeBy_eq (c : SequenceCodec) (v : Value) (scope : Scope Value) (r : Route) :
    p.writeBy c v scope r = (p.textBy c v scope r >>= p.withFallback c) := by
  cases r with
  | handler => rfl
  | expression evaluate =>
    rw [writeBy, writeExpression, textBy, bind_assoc]
    refine bind_congr fun _ => ?_
    rw [bind_assoc]

/-- **Either way ends with the fallback.** -/
theorem write_eq_bind (p : Plan) (o : Options) (v : Value) (scope : Scope Value) :
    p.write o v scope = (p.ownText o v scope >>= p.withFallback o.codec) := by
  rw [write, ownText]
  cases p.route? o with
  | none => rfl
  | some r => exact writeBy_eq o.codec v scope r

theorem write_ne_empty {v : Value} {scope : Scope Value} {s : String}
    (h : p.write o v scope = .ok (some s)) : s ≠ "" := by
  rw [write_eq_bind] at h
  obtain ⟨text, -, h⟩ := Outcome.bind_eq_ok_iff.1 h
  exact withFallback_ne_empty h

/-! ## Plain plans -/

/-- **A plan that uses a handler** takes that way, whatever else there is. -/
theorem route?_of_usesHandler (h : p.usesHandler = true) : p.route? o = some .handler :=
  List.find?_cons_of_pos h

/-- The way that a plan takes converts its cells. -/
theorem supports_of_route? {r : Route} (h : p.route? o = some r) : r.supports p = true :=
  List.find?_some (p := fun r => Route.supports r p) h

/-- **A plan that uses no expression** takes no way but the handler. -/
theorem eq_handler_of_route? (hp : p.usesExpression = false) {r : Route}
    (h : p.route? o = some r) : r = .handler := by
  cases r with
  | handler => rfl
  | expression evaluate => cases hp.symm.trans (supports_of_route? h)

/-- The plan reads and writes by the handler, without checks. -/
structure Plain (p : Plan) : Prop where
  uses_handler : p.usesHandler = true
  unchecked : p.validators = []

namespace Plain

/-- A plain plan writes what it encodes, or its fallback. -/
theorem write_eq (h : p.Plain) (v : Value) (scope : Scope Value) :
    p.write o v scope = (p.encode o.codec p.shape v >>= p.withFallback o.codec) := by
  rw [write, route?_of_usesHandler h.uses_handler]
  rfl

/-- A plain plan decodes a cell that is not blank. -/
theorem read_of_visible (h : p.Plain) {row : Scope String}
    (hv : Text.isBlank (p.cellText row) = false) :
    p.read o row = p.decode o.codec p.shape (p.cellText row) := by
  rw [read, route?_of_usesHandler h.uses_handler]
  exact readText_of_visible h.unchecked hv

/-- A plain plan without a fallback reads a blank cell as neutral. -/
theorem read_of_blank (h : p.Plain) (hf : p.fallbackText? = none) {row : Scope String}
    (hb : Text.isBlank (p.cellText row) = true) : p.read o row = .ok (.neutral p.shape) := by
  rw [read, route?_of_usesHandler h.uses_handler]
  change p.readText o.codec (p.cellText row) = _
  rw [readText, if_pos hb, hf]

end Plain

/-! ## Values that survive -/

/-- The value comes back from its text; or it leaves nothing to read, is the neutral value, and has
no fallback that stands in for it. -/
def Survives (p : Plan) (c : SequenceCodec) (v : Value) : Prop :=
  (∃ text, p.encode c p.shape v = .ok (some text) ∧ Text.isBlank text = false ∧
    p.decode c p.shape text = .ok v) ∨
  (∃ text, p.encode c p.shape v = .ok text ∧ Text.isBlank (text.getD "") = true) ∧
    v = .neutral p.shape ∧ p.fallbackText? = none

/-- **A value that fits its shape survives.** -/
theorem survives_of_fits {c : SequenceCodec} (hc : c.Nestable) {h : Handler}
    (hp : p.handler = some h) {v : Value} (hv : h.Fits p.context c p.shape v) :
    p.Survives c v := by
  obtain ⟨text, henc, hleg, hdec⟩ := restores_of_fits hc hp hv
  exact .inl ⟨text, henc, hleg.visible, hdec⟩

/-- **A value that survives is read back from its cell,** also by a plan of the other direction. -/
theorem Survives.exists_text (hp : p.Plain) (hq : q.Plain) (ha : p.Agrees q) {v : Value}
    (h : p.Survives o.codec v) :
    ∃ text, (∀ scope, p.write o v scope = .ok text) ∧
      ∀ row, row.get? q.descriptor.name = some (text.getD "") → q.read o row = .ok v := by
  rcases h with ⟨text, henc, hvis, hdec⟩ | ⟨⟨text, henc, hblank⟩, rfl, hnone⟩
  · have hne : text ≠ "" := by
      rintro rfl
      exact absurd hvis (by simp [Text.isBlank_empty])
    refine ⟨some text, fun scope => ?_, fun row hrow => ?_⟩
    · rw [hp.write_eq, henc]
      exact withFallback_some hne
    · have hcell : q.cellText row = text := by
        rw [cellText, hrow]
        rfl
      rw [hq.read_of_visible (hcell ▸ hvis), hcell, ← decode_congr ha.handler ha.context,
        ← ha.shape, hdec]
  · obtain ⟨written, hwritten, hget⟩ := withFallback_of_none (c := o.codec) hnone text
    refine ⟨written, fun scope => ?_, fun row hrow => ?_⟩
    · rw [hp.write_eq, henc]
      exact hwritten
    · have hcell : q.cellText row = text.getD "" := by
        rw [cellText, hrow, Option.getD_some, hget]
      have hnone' : q.fallbackText? = none := by
        rw [fallbackText?, ← ha.fallback]
        exact hnone
      rw [hq.read_of_blank hnone' (hcell ▸ hblank), ha.shape]

end Plan

end RecordSheet
