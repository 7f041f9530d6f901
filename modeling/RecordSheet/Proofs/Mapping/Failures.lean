import RecordSheet.Mapping.Writer
import RecordSheet.Proofs.Mapping.Creation
import RecordSheet.Proofs.Mapping.Reader
import RecordSheet.Proofs.Mapping.Route
import RecordSheet.Proofs.Mapping.Setup
import RecordSheet.Proofs.Mapping.Writer
import RecordSheet.Record.Slots

/-!
# Proofs/Mapping/Failures — what can still go wrong once everything is planned

What is wrong with the declarations is found when a writer or a reader is made.  A plan that was
made is **sound**: it converts either by a handler or by an expression that it has and that
something evaluates, so exactly one route supports it (`Plan.Sound.exists_route`).  A column to
write holds what reads its attribute, so that cannot be missing later.  Each record and each row
then fails only by its own values and texts (`failures_after_setup`).
-/

namespace RecordSheet

variable {ρ : Type}

open Outcome

/-! ## Kinds of failures -/

namespace Failure

/-- A fault of the declarations. -/
def OfSetup : Failure → Prop
  | .setup _ => True
  | _ => False

/-- A value or a text is not converted, or a text is no sequence. -/
def OfCell : Failure → Prop
  | .conversion .. | .sequence .. => True
  | _ => False

/-- A cell fails, or a validator refuses its text. -/
def OfRow : Failure → Prop
  | .validation .. => True
  | f => f.OfCell

theorem OfCell.ofRow {f : Failure} (h : f.OfCell) : f.OfRow := by
  cases f with
  | conversion | sequence => exact trivial
  | setup | validation | sheet | plan => exact h.elim

end Failure

/-! ## Values and texts -/

namespace Plan

variable {p : Plan} {o : Options} {c : SequenceCodec}

theorem failsOnly_decodeElement {inner : Shape} {one : String → Except Failure Value}
    (h : ∀ token, FailsOnly Failure.OfCell (one token)) (text token : String) :
    FailsOnly Failure.OfCell (p.decodeElement inner one text token) := by
  rw [decodeElement]
  split
  · split
    · exact failsOnly_error trivial
    · exact failsOnly_ok _
  · exact h token

theorem failsOnly_decodeSequence {inner : Shape} {one : String → Except Failure Value}
    (h : ∀ token, FailsOnly Failure.OfCell (one token)) (text : String) :
    FailsOnly Failure.OfCell (p.decodeSequence c inner one text) :=
  (failsOnly_mapError (fun _ => trivial) _).bind fun _ _ =>
    (failsOnly_mapM fun token _ => failsOnly_decodeElement h text token).bind fun _ _ =>
      failsOnly_ok _

/-- **Reading a text along a shape fails as a cell does.** -/
theorem failsOnly_decode (p : Plan) (c : SequenceCodec) (s : Shape) (text : String) :
    FailsOnly Failure.OfCell (p.decode c s text) := by
  induction s generalizing text with
  | scalar t =>
    rw [decode]
    split
    · exact failsOnly_ok _
    · exact failsOnly_mapError (fun _ => trivial) _
  | array s ih | iterable s ih => exact failsOnly_decodeSequence ih text

theorem failsOnly_encodeSequence {one : Value → Except Failure (Option String)}
    (h : ∀ v, FailsOnly Failure.OfCell (one v)) (v : Value) :
    FailsOnly Failure.OfCell (p.encodeSequence c one v) := by
  cases v with
  | null => exact failsOnly_ok none
  | seq items => exact (failsOnly_mapM fun item _ => (h item).map _).bind fun _ _ => failsOnly_ok _
  | _ => exact failsOnly_error trivial

/-- **Writing a value along a shape fails as a cell does.** -/
theorem failsOnly_encode (p : Plan) (c : SequenceCodec) (s : Shape) (v : Value) :
    FailsOnly Failure.OfCell (p.encode c s v) := by
  induction s generalizing v with
  | scalar t =>
    rw [encode]
    split
    · exact failsOnly_ok _
    · split
      · exact failsOnly_ok _
      · exact (failsOnly_mapError (fun _ => trivial) _).map _
  | array s ih | iterable s ih => exact failsOnly_encodeSequence ih v

/-- The fallback of a cell is read and written as its text is. -/
theorem failsOnly_withFallback (text : Option String) :
    FailsOnly Failure.OfCell (p.withFallback c text) := by
  rw [withFallback]
  split
  · exact failsOnly_ok _
  · split
    · exact failsOnly_ok _
    · exact (failsOnly_decode p c _ _).bind fun v _ =>
        (failsOnly_encode p c _ v).bind fun _ _ => failsOnly_ok _

theorem failsOnly_checkText (text : String) : FailsOnly Failure.OfRow (p.checkText text) :=
  failsOnly_forM fun _ _ => failsOnly_mapError (fun _ => trivial) _

theorem failsOnly_readText (text : String) : FailsOnly Failure.OfRow (p.readText c text) := by
  have hdecode : ∀ text, FailsOnly Failure.OfRow (p.decode c p.shape text) := fun text =>
    (failsOnly_decode p c p.shape text).mono fun _ => Failure.OfCell.ofRow
  rw [readText]
  split
  · split
    · exact hdecode _
    · exact failsOnly_ok _
  · exact (failsOnly_checkText text).bind fun _ _ => hdecode text

theorem failsOnly_expressionValue (evaluate : Evaluator) (expression : String)
    (row : Scope String) : FailsOnly Failure.OfCell (p.expressionValue evaluate expression row) :=
  (failsOnly_mapError (fun _ => trivial) _).bind fun _ _ => failsOnly_ok _

theorem failsOnly_resultText (v : Value) : FailsOnly Failure.OfCell (p.resultText c v) := by
  cases v with
  | null => exact failsOnly_ok none
  | seq items => exact failsOnly_encode p c p.shape (.seq items)
  | _ => exact failsOnly_ok (some _)

/-! ## Sound plans -/

/-- **The plan has one way to convert:** a handler's, or that of an expression which it has and
which something evaluates. -/
structure Sound (p : Plan) (o : Options) : Prop where
  one_way : p.usesHandler = !p.usesExpression
  expression : p.usesExpression = true → p.expression.isSome
  evaluator : p.usesExpression = true → o.evaluator.isSome

/-- **A plan that an attribute allows is sound.** -/
theorem sound_of_plan {a : Attribute ρ} {d : Descriptor} {inherited : Option String}
    {registry : Registry} {direction : Direction} {accessor : Bool}
    (h : a.plan d inherited registry o direction accessor = .ok p) : p.Sound o := by
  obtain ⟨shape, -, heval, rfl⟩ := Attribute.plan_eq_ok_iff.1 h
  refine ⟨?_, id, heval⟩
  change (a.expression direction).isNone = !(a.expression direction).isSome
  cases a.expression direction <;> rfl

namespace Sound

/-- **Exactly one route supports a sound plan,** and it is the one taken. -/
theorem exists_route (h : p.Sound o) :
    ∃ r, o.routes.filter (fun r => r.supports p) = [r] ∧ p.route? o = some r := by
  have hroute : ∀ r, o.routes.filter (fun r => r.supports p) = [r] → p.route? o = some r := by
    intro r hr
    rw [route?, ← List.head?_filter, hr]
    rfl
  cases huse : p.usesExpression with
  | false =>
    refine ⟨.handler, ?_, route?_of_usesHandler (by rw [h.one_way, huse]; rfl)⟩
    have hnone : ∀ r ∈ o.evaluator.toList.map Route.expression, ¬ r.supports p = true := by
      refine List.forall_mem_map.2 fun evaluate _ => ?_
      rw [Route.supports, huse]
      exact Bool.false_ne_true
    rw [Options.routes, List.filter_cons_of_pos (by rw [Route.supports, h.one_way, huse]; rfl),
      List.filter_eq_nil_iff.2 hnone]
  | true =>
    obtain ⟨evaluate, hevaluate⟩ := Option.isSome_iff_exists.1 (h.evaluator huse)
    have hfilter : o.routes.filter (fun r => r.supports p) = [.expression evaluate] := by
      rw [Options.routes, hevaluate,
        List.filter_cons_of_neg (by rw [Route.supports, h.one_way, huse]; exact Bool.false_ne_true)]
      exact List.filter_cons_of_pos huse
    exact ⟨_, hfilter, hroute _ hfilter⟩

/-- A route that supports a sound plan finds the expression it needs. -/
theorem exists_expression (h : p.Sound o) {evaluate : Evaluator}
    (hr : p.route? o = some (.expression evaluate)) : ∃ text, p.expression = some text := by
  have hsupports : p.usesExpression = true := supports_of_route? hr
  exact Option.isSome_iff_exists.1 (h.expression hsupports)

/-- **Reading by a sound plan** fails by the row's texts. -/
theorem failsOnly_read (h : p.Sound o) (row : Scope String) :
    FailsOnly Failure.OfRow (p.read o row) := by
  obtain ⟨r, -, hr⟩ := h.exists_route
  rw [read, hr]
  cases r with
  | handler => exact failsOnly_readText _
  | expression evaluate =>
    obtain ⟨text, htext⟩ := h.exists_expression hr
    have hvalue := (failsOnly_expressionValue (p := p) evaluate text row).mono fun _ =>
      Failure.OfCell.ofRow
    change FailsOnly Failure.OfRow (p.readExpression evaluate row)
    rw [readExpression_eq htext]
    split
    · exact hvalue
    · exact (failsOnly_checkText _).bind fun _ _ => hvalue

theorem failsOnly_ownText (h : p.Sound o) (v : Value) (scope : Scope Value) :
    FailsOnly Failure.OfCell (p.ownText o v scope) := by
  obtain ⟨r, -, hr⟩ := h.exists_route
  rw [ownText, hr]
  cases r with
  | handler => exact failsOnly_encode p _ _ v
  | expression evaluate =>
    obtain ⟨text, htext⟩ := h.exists_expression hr
    dsimp only
    rw [textBy, expressionText_eq_ok htext]
    exact (failsOnly_ok text).bind fun _ _ =>
      (failsOnly_mapError (fun _ => trivial) _).bind fun result _ => failsOnly_resultText result

/-- **Writing by a sound plan** fails by the record's values. -/
theorem failsOnly_write (h : p.Sound o) (v : Value) (scope : Scope Value) :
    FailsOnly Failure.OfCell (p.write o v scope) := by
  rw [write_eq_bind]
  exact (h.failsOnly_ownText v scope).bind fun text _ => failsOnly_withFallback text

end Sound

end Plan

/-! ## Writers -/

namespace Writer

variable {s : Schema ρ} {registry : Registry} {o : Options} {w : Writer ρ}

/-- The plans of a writer are sound. -/
theorem sound_columns (h : Writer.make s registry o = .ok w) : ∀ c ∈ w.columns, c.plan.Sound o := by
  intro c hc
  obtain ⟨hcolumns, -⟩ := make_eq_ok h
  obtain ⟨e, -, he⟩ := exists_of_forall₂ (mapM_eq_ok_iff.1 hcolumns) hc
  obtain ⟨accessor, hplan⟩ := Attribute.plan_of_writeColumn he
  exact Plan.sound_of_plan hplan

/-- **A record fails by its values.** -/
theorem failsOnly_convert (h : Writer.make s registry o = .ok w) (x : ρ) :
    FailsOnly Failure.OfCell (w.convert x) := by
  refine failsOnly_mapM fun c hc => ?_
  obtain ⟨-, ho⟩ := make_eq_ok h
  have hwrite := (sound_columns h c hc).failsOnly_write (c.get x)
  rw [← ho] at hwrite
  exact (hwrite _).bind fun _ _ => failsOnly_ok _

end Writer

/-! ## Readers -/

namespace Reader

variable {s : Schema ρ} {registry : Registry} {o : Options} {r : Reader ρ}

/-- The plans of a reader are sound. -/
theorem sound_columns (h : Reader.make s registry o = .ok r) : ∀ c ∈ r.columns, c.plan.Sound o := by
  intro c hc
  obtain ⟨hcolumns, -⟩ := make_eq_ok h
  obtain ⟨e, -, he⟩ := exists_of_forall₂ (mapM_eq_ok_iff.1 hcolumns) hc
  obtain ⟨accessor, hplan⟩ := Attribute.plan_of_readColumn he
  exact Plan.sound_of_plan hplan

/-- There is a value for each attribute. -/
theorem length_values (h : Reader.make s registry o = .ok r) {row : Scope String}
    {values : List Value} (hvalues : r.values row = .ok values) :
    values.length = s.attributes.length := by
  obtain ⟨hcolumns, -⟩ := make_eq_ok h
  rw [← (mapM_eq_ok_iff.1 hvalues).length_eq, ← s.length_descriptors,
    ← Schema.map_descriptor_readColumns hcolumns, List.length_map]

theorem failsOnly_assign (r : Reader ρ) (row : Scope String) (record : ρ) (column : ReadColumn ρ)
    (v : Value) (index : Nat) :
    FailsOnly Failure.OfRow (r.assign row record column v index) := by
  rw [assign_eq]
  exact failsOnly_mapError (fun _ => trivial) _

theorem failsOnly_assignAll (r : Reader ρ) (row : Scope String) (record : ρ) (index : Nat)
    (columns : List (ReadColumn ρ × Value)) :
    FailsOnly Failure.OfRow (r.assignAll row record index columns) := by
  induction columns generalizing record index with
  | nil => exact failsOnly_ok record
  | cons e rest ih =>
    exact (failsOnly_assign r row record e.1 e.2 index).bind fun next _ => ih next (index + 1)

/-- **A row fails by its texts.** -/
theorem failsOnly_convert (h : Reader.make s registry o = .ok r) (row : Scope String) :
    FailsOnly Failure.OfRow (r.convert row) := by
  obtain ⟨-, ho, -⟩ := make_eq_ok h
  have hvalues : FailsOnly Failure.OfRow (r.values row) := failsOnly_mapM fun c hc =>
    ho ▸ (sound_columns h c hc).failsOnly_read row
  exact hvalues.bind fun values _ =>
    (failsOnly_mapError (fun _ => trivial) _).bind fun record _ =>
      failsOnly_assignAll r row record 0 _

end Reader

/-- Rows of one truth value in a slot. -/
def flagRows : Schema SlotRecord :=
  ⟨"Row", none, [⟨"done", .scalar .bool, some (SlotRecord.getter "done"),
    some (SlotRecord.setter "done" .any), none, none, {}⟩], [.constant "make" .empty], rfl⟩

/-- **After setup only rows fail.**  Making a writer or a reader fails by a fault of the
declarations.  Once they are made, exactly one route supports the plan of each attribute, and each
attribute to write can be read; a record then fails by its values, a row by its texts, and the
creator has a value for each of its parameters. -/
theorem failures_after_setup (s : Schema ρ) (registry : Registry) (o : Options) :
    FailsOnly Failure.OfSetup ((Writer.make s registry o).mapError SetupFault.toFailure) ∧
      FailsOnly Failure.OfSetup ((Reader.make s registry o).mapError SetupFault.toFailure) ∧
      (∀ w, Writer.make s registry o = .ok w →
        (w.columns.map fun c => c.plan.descriptor) = s.descriptors ∧
        (∀ c ∈ w.columns, ∃ route, w.options.routes.filter (fun r => r.supports c.plan) = [route]) ∧
        (∀ (i : Nat) (c : WriteColumn ρ), w.columns[i]? = some c →
          ∃ a, s.attributes[i]? = some a ∧ a.getter? o = some c.get) ∧
        ∀ x, FailsOnly Failure.OfCell (w.convert x)) ∧
      ∀ r, Reader.make s registry o = .ok r →
        (r.columns.map fun c => c.plan.descriptor) = s.descriptors ∧
        (∀ c ∈ r.columns, ∃ route, r.options.routes.filter (fun r => r.supports c.plan) = [route]) ∧
        ∀ row, FailsOnly Failure.OfRow (r.convert row) ∧
          ∀ values, r.values row = .ok values → ∀ name,
            r.creation.create values ≠ .error (.noValue name) := by
  have hsetup : ∀ f : SetupFault, f.OfDeclarations → f.toFailure.OfSetup := fun f hf => by
    rw [hf]
    exact trivial
  refine ⟨((Writer.failsOnly_make s registry o).mono hsetup).mapError,
    ((Reader.failsOnly_make s registry o).mono hsetup).mapError, fun w hw => ?_, fun r hr => ?_⟩
  · obtain ⟨hcolumns, ho⟩ := Writer.make_eq_ok hw
    refine ⟨Schema.map_descriptor_writeColumns hcolumns, fun c hc => ?_, fun i c hi => ?_,
      Writer.failsOnly_convert hw⟩
    · obtain ⟨route, hroute, -⟩ := (Writer.sound_columns hw c hc).exists_route
      exact ⟨route, ho ▸ hroute⟩
    · obtain ⟨a, ha, hcolumn⟩ := Schema.exists_attribute_of_writeColumns hcolumns hi
      obtain ⟨_, _, -, -, hget⟩ := Attribute.writeColumn_eq_ok hcolumn
      exact ⟨a, ha, hget⟩
  · obtain ⟨hcolumns, ho, hcreation, -⟩ := Reader.make_eq_ok hr
    refine ⟨Schema.map_descriptor_readColumns hcolumns, fun c hc => ?_, fun row =>
      ⟨Reader.failsOnly_convert hr row, fun values hvalues name => ?_⟩⟩
    · obtain ⟨route, hroute, -⟩ := (Reader.sound_columns hr c hc).exists_route
      exact ⟨route, ho ▸ hroute⟩
    · exact (Schema.sound_creation hcreation).create_ne_noValue (Reader.length_values hr hvalues)
        name

/-- A cell that holds no truth value. -/
theorem failures_after_setup_bool :
    let f : Failure := .conversion "done" "bool" "maybe" "\"maybe\" is not a valid bool"
    ∃ w r, Writer.make flagRows .builtin {} = .ok w ∧ Reader.make flagRows .builtin {} = .ok r ∧
      (∀ x, FailsOnly Failure.OfCell (w.convert x)) ∧
      r.convert (.ofList [("done", "maybe")]) = .error f ∧ f.OfRow := by
  obtain ⟨-, -, hwriter, hreader⟩ := failures_after_setup flagRows .builtin {}
  refine ⟨_, _, rfl, rfl, (hwriter _ rfl).2.2.2, rfl, ?_⟩
  exact ((hreader _ rfl).2.2 (.ofList [("done", "maybe")])).1 _ rfl

end RecordSheet
