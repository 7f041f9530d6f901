import RecordSheet.Proofs.Mapping.Failures

/-!
# Proofs/Mapping/Validation — which texts the validators look at

Only the check of a text fails as a validator does; decoding and evaluating fail otherwise.  So
reading fails that way exactly when a text is not blank and refused (`Plan.Refuses`).  By the
handler this is the text of the cell.  An expression is given the fallback in place of a blank cell,
and the fallback is then checked like a text of the row (`refuses_expressionInput_iff`), which the
handler's way does not do: the two ways agree only where no blank cell has a fallback that is
refused.
-/

namespace RecordSheet

open Outcome

/-- A validator refuses a text. -/
def Failure.OfValidation : Failure → Prop
  | .validation .. => True
  | _ => False

theorem Failure.OfCell.not_ofValidation {f : Failure} (h : f.OfCell) : ¬ f.OfValidation := by
  cases f with
  | validation => exact fun _ => h
  | setup | conversion | sequence | sheet | plan => exact id

namespace Plan

variable {p : Plan} {c : SequenceCodec} {row : Scope String} {text : String} {f : Failure}

/-- **A text is refused:** it is not blank, and the failure is the objection of the first validator
that does not take it. -/
def Refuses (p : Plan) (text : String) (f : Failure) : Prop :=
  Text.isBlank text = false ∧
    ∃ front v back r, p.validators = front ++ v :: back ∧ (∀ u ∈ front, u.check text = .ok ()) ∧
      v.check text = .error r ∧ f = .validation p.descriptor.name text r.message

theorem checkText_eq_error_iff :
    p.checkText text = .error f ↔
      ∃ front v back r, p.validators = front ++ v :: back ∧
        (∀ u ∈ front, u.check text = .ok ()) ∧ v.check text = .error r ∧
        f = .validation p.descriptor.name text r.message := by
  rw [checkText, forM_eq_error_iff]
  constructor
  · rintro ⟨front, v, back, heq, hfront, hv⟩
    obtain ⟨r, hr, rfl⟩ := mapError_eq_error_iff.1 hv
    exact ⟨front, v, back, r, heq, fun u hu => mapError_eq_ok_iff.1 (hfront u hu), hr, rfl⟩
  · rintro ⟨front, v, back, r, heq, hfront, hr, rfl⟩
    exact ⟨front, v, back, heq, fun u hu => mapError_eq_ok_iff.2 (hfront u hu),
      mapError_eq_error_iff.2 ⟨r, hr, rfl⟩⟩

theorem not_refuses_of_blank (h : Text.isBlank text = true) : ¬ p.Refuses text f := fun hr =>
  nomatch h.symm.trans hr.1

/-- **A checked step** fails as a validator does exactly when its text is refused. -/
theorem checked_eq_error_iff {α : Type} {next : Except Failure α}
    (hnext : FailsOnly (fun f => ¬ f.OfValidation) next) (hv : Text.isBlank text = false) :
    (p.checkText text >>= fun _ => next) = .error f ∧ f.OfValidation ↔ p.Refuses text f := by
  rw [bind_eq_error_iff]
  constructor
  · rintro ⟨h | ⟨_, _, h⟩, hf⟩
    · exact ⟨hv, checkText_eq_error_iff.1 h⟩
    · exact absurd hf (hnext f h)
  · rintro ⟨-, h⟩
    refine ⟨.inl (checkText_eq_error_iff.2 h), ?_⟩
    obtain ⟨_, _, _, _, -, -, -, rfl⟩ := h
    exact trivial

/-- A step without a check does not fail as a validator does. -/
theorem unchecked_eq_error_iff {α : Type} {next : Except Failure α}
    (hnext : FailsOnly (fun f => ¬ f.OfValidation) next) (hb : Text.isBlank text = true) :
    next = .error f ∧ f.OfValidation ↔ p.Refuses text f :=
  ⟨fun h => absurd h.2 (hnext f h.1), fun h => absurd h (not_refuses_of_blank hb)⟩

/-- **The handler's way** checks the text of the cell. -/
theorem readText_refuses_iff (p : Plan) (c : SequenceCodec) (text : String) (f : Failure) :
    p.readText c text = .error f ∧ f.OfValidation ↔ p.Refuses text f := by
  have hdecode : ∀ text, FailsOnly (fun f => ¬ f.OfValidation) (p.decode c p.shape text) :=
    fun text => (failsOnly_decode p c p.shape text).mono fun _ => Failure.OfCell.not_ofValidation
  cases hb : Text.isBlank text with
  | false =>
    rw [readText, hb]
    exact checked_eq_error_iff (hdecode text) hb
  | true =>
    rw [readText, if_pos hb]
    refine unchecked_eq_error_iff ?_ hb
    split
    · exact hdecode _
    · exact failsOnly_ok _

/-- **The way of an expression** checks the text that the expression is given. -/
theorem readExpression_refuses_iff {expression : String} (h : p.expression = some expression)
    (evaluate : Evaluator) (row : Scope String) (f : Failure) :
    p.readExpression evaluate row = .error f ∧ f.OfValidation ↔
      p.Refuses (p.expressionInput row) f := by
  have hvalue : FailsOnly (fun f => ¬ f.OfValidation) (p.expressionValue evaluate expression row) :=
    (failsOnly_expressionValue evaluate expression row).mono fun _ =>
      Failure.OfCell.not_ofValidation
  rw [readExpression_eq h]
  split
  · next hb => exact unchecked_eq_error_iff hvalue hb
  · next hb => exact checked_eq_error_iff hvalue (Bool.not_eq_true _ ▸ hb)

/-- **What an expression is given is refused** as the text of the cell is, or as the fallback of a
blank one. -/
theorem refuses_expressionInput_iff :
    p.Refuses (p.expressionInput row) f ↔
      p.Refuses (p.cellText row) f ∨
        Text.isBlank (p.cellText row) = true ∧ ∃ d ∈ p.fallback, p.Refuses d.text f := by
  rw [expressionInput]
  cases hb : Text.isBlank (p.cellText row) with
  | false => exact ⟨.inl, fun h => h.resolve_right nofun⟩
  | true =>
    have hcell := not_refuses_of_blank (p := p) (f := f) hb
    cases hd : p.fallback with
    | none => exact ⟨.inl, fun h => h.resolve_right nofun⟩
    | some d =>
      refine ⟨fun h => .inr ⟨rfl, d, rfl, h⟩, ?_⟩
      rintro (h | ⟨-, _, ⟨⟩, h⟩)
      · exact absurd h hcell
      · exact h

/-- **The two ways and the validators.**  Two plans differ in that one of them converts by an
expression.  The handler's way fails as a validator does exactly when the text of the cell is
refused, and the way of the expression also when a blank cell has a fallback that is refused; so the
two fail alike on a row unless that is the case. -/
theorem validation_of_readBy (p : Plan) (flags : Flags) (expression : String) (c : SequenceCodec)
    (evaluate : Evaluator) (row : Scope String) :
    let q : Plan := { p with flags := flags, expression := some expression }
    (∀ f, p.readBy c row .handler = .error f ∧ f.OfValidation ↔ p.Refuses (p.cellText row) f) ∧
      (∀ f, q.readBy c row (.expression evaluate) = .error f ∧ f.OfValidation ↔
        p.Refuses (p.cellText row) f ∨
          Text.isBlank (p.cellText row) = true ∧ ∃ d ∈ p.fallback, p.Refuses d.text f) ∧
      ((∀ f, (p.readBy c row .handler = .error f ∧ f.OfValidation ↔
          q.readBy c row (.expression evaluate) = .error f ∧ f.OfValidation)) ↔
        ¬ (Text.isBlank (p.cellText row) = true ∧ ∃ d ∈ p.fallback, ∃ f, p.Refuses d.text f)) := by
  intro q
  have hhandler := readText_refuses_iff p c (p.cellText row)
  have hexpression : ∀ f, q.readBy c row (.expression evaluate) = .error f ∧ f.OfValidation ↔
      p.Refuses (p.cellText row) f ∨
        Text.isBlank (p.cellText row) = true ∧ ∃ d ∈ p.fallback, p.Refuses d.text f := fun f =>
    (readExpression_refuses_iff (p := q) rfl evaluate row f).trans
      (refuses_expressionInput_iff (p := p))
  refine ⟨hhandler, hexpression, fun h => ?_, fun h f => ?_⟩
  · rintro ⟨hb, d, hd, f, hf⟩
    exact not_refuses_of_blank hb
      ((hhandler f).1 ((h f).2 ((hexpression f).2 (.inr ⟨hb, d, hd, hf⟩))))
  · refine (hhandler f).trans (Iff.trans ?_ (hexpression f).symm)
    exact ⟨.inl, fun hf => hf.resolve_right fun ⟨hb, d, hd, hf⟩ => h ⟨hb, d, hd, f, hf⟩⟩

/-- A blank cell of an attribute that takes `A` and `B` and falls back on `C`: the handler reads it
as `C`, and the expression that gives back what it is given fails as a validator does. -/
theorem exists_fallback_refused :
    ∃ (p : Plan) (flags : Flags) (expression : String) (evaluate : Evaluator) (row : Scope String)
      (f : Failure), f.OfValidation ∧ p.readBy {} row .handler = .ok (.str "C") ∧
      Plan.readBy { p with flags := flags, expression := some expression } {} row
        (.expression evaluate) = .error f := by
  refine ⟨⟨⟨"code", "Row", .scalar .string, 0⟩, .read, {}, some ⟨"C", .attribute⟩, some .string,
    [.oneOf ["A", "B"]], .scalar .string, none, none, "code"⟩, {}, "code",
    fun name scope => .ok ((scope.get? name).getD .null), .ofList [("code", "")],
    .validation "code" "C" (Rejection.message (.notAllowed (Validator.distinct ["A", "B"]))),
    trivial, rfl, rfl⟩

end Plan

end RecordSheet
