import RecordSheet.Proofs.Mapping.Planning
import RecordSheet.Proofs.Mapping.Rows
import RecordSheet.Proofs.Mapping.Writer

/-!
# Proofs/Mapping/Evaluation — what expressions see

An evaluator is a function, so what it is asked shows in what becomes of its answers: a cell asks
one question exactly when it fails with an evaluator that refuses the answer, and is the same with
all evaluators that give one answer (`AsksExactly`).  Another evaluator changes no plan
(`Writer.make_answering`, `Reader.make_answering`) and the route of no cell
(`Attribute.Declares.route?_cases`).

A writer builds the scope of a record only when some column looks at it, and no other column can
tell (`Writer.convert_eq`).  So an expression is asked, on writing, in the scope of all values of
the record (`Schema.Holds`), and on reading in that of all texts of the row, where only the text of
its own attribute may be the fallback (`Schema.Overlays`).
-/

namespace RecordSheet

variable {ρ : Type}

open Outcome

/-- **The expression is asked in the scope, if there is one, and nothing else is:** with an
evaluator that refuses it the step fails, and evaluators that answer it alike lead to one result. -/
structure AsksExactly {α : Type} (step : Evaluator → Except Failure α) (expression : Option String)
    (scope : Scope Value) : Prop where
  asked : ∀ x ∈ expression, ∀ e message, e x scope = .error message → ∃ f, step e = .error f
  only : ∀ e e' : Evaluator, (∀ x ∈ expression, e x scope = e' x scope) → step e = step e'

/-- What is done with the value of a step asks nothing. -/
theorem AsksExactly.bind {α β : Type} {step : Evaluator → Except Failure α}
    {expression : Option String} {scope : Scope Value} (h : AsksExactly step expression scope)
    (next : α → Except Failure β) : AsksExactly (fun e => step e >>= next) expression scope where
  asked x hx e message he := by
    obtain ⟨f, hf⟩ := h.asked x hx e message he
    exact ⟨f, bind_eq_error_iff.2 (.inl hf)⟩
  only e e' he := congrArg (· >>= next) (h.only e e' he)

/-! ## Another evaluator -/

/-- The same choices with another evaluator, where there is one. -/
def Options.answering (o : Options) (e : Evaluator) : Options :=
  { o with evaluator := o.evaluator.map fun _ => e }

variable {s : Schema ρ} {registry : Registry} {o : Options} {e : Evaluator}

theorem Attribute.plan_answering (a : Attribute ρ) (d : Descriptor) (inherited : Option String)
    (registry : Registry) (o : Options) (e : Evaluator) (direction : Direction) (accessor : Bool) :
    a.plan d inherited registry (o.answering e) direction accessor =
      a.plan d inherited registry o direction accessor := by
  rw [plan, plan, Options.answering, Option.isNone_map]
  rfl

theorem Schema.writeColumns_answering (s : Schema ρ) (registry : Registry) (o : Options)
    (e : Evaluator) : s.writeColumns registry (o.answering e) = s.writeColumns registry o := by
  refine mapM_congr fun ⟨a, d⟩ _ => ?_
  dsimp only
  rw [Attribute.writeColumn, Attribute.writeColumn]
  exact congrArg (· >>= _) (a.plan_answering d s.fallback registry o e .write _)

theorem Schema.readColumns_answering (s : Schema ρ) (registry : Registry) (o : Options)
    (e : Evaluator) : s.readColumns registry (o.answering e) = s.readColumns registry o := by
  refine mapM_congr fun ⟨a, d⟩ _ => ?_
  dsimp only
  rw [Attribute.readColumn, Attribute.readColumn]
  exact congrArg (· >>= _) (a.plan_answering d s.fallback registry o e .read _)

namespace Plan

variable {p : Plan} {row : Scope String}

/-- **An expression is the way** of a plan that uses one, where it can be evaluated. -/
theorem route?_of_usesExpression (hp : p.usesExpression = true) (hh : p.usesHandler = false)
    (he : o.evaluator = some e) : p.route? o = some (.expression e) := by
  rw [route?, Options.routes, he, List.find?_cons_of_neg (by rw [Route.supports, hh]; nofun)]
  exact List.find?_cons_of_pos hp

/-! ## One cell -/

/-- **Reading by an expression** asks it in the scope of the row, once the text is checked. -/
theorem asksExactly_readExpression {x : String} (hx : p.expression = some x)
    (row : Scope String) :
    AsksExactly (fun e => p.readExpression e row) (some x) (p.readScope row) where
  asked := by
    rintro _ ⟨⟩ e message he
    have hvalue : p.expressionValue e x row =
        .error (p.failure (p.expressionInput row) message) := by
      rw [expressionValue, he]
      rfl
    rw [readExpression_eq hx, hvalue]
    split
    · exact ⟨_, rfl⟩
    · cases p.checkText (p.expressionInput row) with
      | error f => exact ⟨f, rfl⟩
      | ok _ => exact ⟨_, rfl⟩
  only e e' h := by
    have hvalue : p.expressionValue e x row = p.expressionValue e' x row := by
      rw [expressionValue, expressionValue, h x rfl]
    rw [readExpression_eq hx, readExpression_eq hx, hvalue]

theorem writeExpression_eq {x : String} (hx : p.expression = some x) (c : SequenceCodec)
    (e : Evaluator) (v : Value) (scope : Scope Value) :
    p.writeExpression c e v scope =
      (e x scope).mapError (fun m => p.failure v.toText m) >>= fun result =>
        p.resultText c result >>= p.withFallback c := by
  rw [writeExpression, expressionText_eq_ok hx]
  rfl

/-- **Writing by an expression** asks it in the scope of the record. -/
theorem asksExactly_writeExpression {x : String} (hx : p.expression = some x) (c : SequenceCodec)
    (v : Value) (scope : Scope Value) :
    AsksExactly (fun e => p.writeExpression c e v scope) (some x) scope where
  asked := by
    rintro _ ⟨⟩ e message he
    rw [writeExpression_eq hx, he]
    exact ⟨_, rfl⟩
  only e e' h := by
    rw [writeExpression_eq hx, writeExpression_eq hx, h x rfl]

/-- **Without an expression** a plan does not look at the record. -/
theorem write_scope_congr (hp : p.usesExpression = false) (o : Options) (v : Value)
    (scope scope' : Scope Value) : p.write o v scope = p.write o v scope' := by
  rw [write, write]
  cases hroute : p.route? o with
  | none => rfl
  | some r =>
    obtain rfl := eq_handler_of_route? hp hroute
    rfl

end Plan

namespace Attribute.Declares

variable {a : Attribute ρ} {d : Descriptor} {inherited : Option String} {direction : Direction}
  {p : Plan}

/-- **The way of a declared plan** is its expression, whatever evaluates it, or the handler if it
has none. -/
theorem route?_cases (h : a.Declares d inherited registry o direction p)
    (hplanned : ¬ a.Unplannable o direction) :
    (a.expression direction = none ∧ ∀ e, p.route? (o.answering e) = some .handler) ∨
      ∃ x, a.expression direction = some x ∧ p.expression = some x ∧
        ∀ e, p.route? (o.answering e) = some (.expression e) := by
  cases hx : a.expression direction with
  | none =>
    have hno : p.usesExpression = false := Bool.eq_false_iff.2 fun huse => by
      obtain ⟨x, hx'⟩ := h.uses_expression.1 huse
      cases (h.expression_eq.trans hx).symm.trans hx'
    have hhandler : p.usesHandler = true := by rw [h.one_conversion, hno]; rfl
    exact .inl ⟨rfl, fun e => Plan.route?_of_usesHandler hhandler⟩
  | some x =>
    have hexpression : p.expression = some x := h.expression_eq.trans hx
    have huse : p.usesExpression = true := h.uses_expression.2 ⟨x, hexpression⟩
    have hhandler : p.usesHandler = false := by rw [h.one_conversion, huse]; rfl
    obtain ⟨e₀, he₀⟩ := Option.ne_none_iff_exists'.1
      ((Attribute.not_unplannable_iff.1 hplanned).1.2 x hx)
    refine .inr ⟨x, rfl, hexpression, fun e => ?_⟩
    have he : (o.answering e).evaluator = some e := by rw [Options.answering, he₀]; rfl
    exact Plan.route?_of_usesExpression huse hhandler he

/-- **A step that goes by the route** asks what it asks by the expression, if one is declared. -/
theorem asksExactly_of_route {α : Type} {step : Evaluator → Except Failure α} {scope : Scope Value}
    (h : a.Declares d inherited registry o direction p) (hplanned : ¬ a.Unplannable o direction)
    (stepBy : Route → Except Failure α)
    (hstep : ∀ e r, p.route? (o.answering e) = some r → step e = stepBy r)
    (hasks : ∀ x, p.expression = some x →
      AsksExactly (fun e => stepBy (.expression e)) (some x) scope) :
    AsksExactly step (a.expression direction) scope := by
  obtain ⟨hnone, hroute⟩ | ⟨x, hx, hx', hroute⟩ := h.route?_cases hplanned
  · rw [hnone]
    refine ⟨nofun, fun e e' _ => ?_⟩
    rw [hstep e _ (hroute e), hstep e' _ (hroute e')]
  · obtain rfl : step = fun e => stepBy (.expression e) := funext fun e => hstep e _ (hroute e)
    rw [hx]
    exact hasks x hx'

/-- **Reading a cell** asks the expression of the attribute in the scope of the row. -/
theorem asksExactly_read (h : a.Declares d inherited registry o .read p)
    (hplanned : ¬ a.Unplannable o .read) (row : Scope String) :
    AsksExactly (fun e => p.read (o.answering e) row) a.settings.readExpression
      (p.readScope row) :=
  h.asksExactly_of_route hplanned (p.readBy o.codec row)
    (fun e r hr => by rw [Plan.read, hr]; rfl) fun _ hx => Plan.asksExactly_readExpression hx row

/-- **Writing a cell** asks the expression of the attribute in the scope of the record. -/
theorem asksExactly_write (h : a.Declares d inherited registry o .write p)
    (hplanned : ¬ a.Unplannable o .write) (v : Value) (scope : Scope Value) :
    AsksExactly (fun e => p.write (o.answering e) v scope) a.settings.writeExpression scope :=
  h.asksExactly_of_route hplanned (p.writeBy o.codec v scope)
    (fun e r hr => by rw [Plan.write, hr]; rfl)
    fun _ hx => Plan.asksExactly_writeExpression hx o.codec v scope

end Attribute.Declares

/-! ## Records -/

namespace Schema

/-- **The scope holds the whole record:** under the name of each attribute the value that its getter
returns, and nothing else. -/
def Holds (s : Schema ρ) (o : Options) (record : ρ) (scope : Scope Value) : Prop :=
  ∀ name value, scope.get? name = some value ↔
    ∃ a ∈ s.attributes, ∃ get, a.name = name ∧ a.getter? o = some get ∧ get record = value

end Schema

namespace Writer

variable {w : Writer ρ}

/-- The same writer with another evaluator. -/
def answering (w : Writer ρ) (e : Evaluator) : Writer ρ :=
  { w with options := w.options.answering e }

/-- **A writer made with another evaluator** is the same but for it. -/
theorem make_answering (hw : Writer.make s registry o = .ok w) (e : Evaluator) :
    Writer.make s registry (o.answering e) = .ok (w.answering e) := by
  obtain ⟨_, hcodec, h⟩ := bind_eq_ok_iff.1 hw
  obtain ⟨columns, hcolumns, h⟩ := bind_eq_ok_iff.1 h
  obtain rfl := Except.ok.inj h
  refine bind_eq_ok_iff.2 ⟨_, hcodec, bind_eq_ok_iff.2 ⟨columns, ?_, rfl⟩⟩
  rw [s.writeColumns_answering, hcolumns]

/-- **The names and getters of the columns are those of the attributes,** in order. -/
theorem map_getter_columns (hw : Writer.make s registry o = .ok w) :
    (w.columns.map fun c => (c.plan.descriptor.name, some c.get)) =
      s.attributes.map fun a => (a.name, a.getter? o) := by
  obtain ⟨hcolumns, -⟩ := make_eq_ok hw
  refine Schema.map_eq_map_attributes hcolumns fun a i c hc => ?_
  obtain ⟨_, _, -, hplan, hget⟩ := Attribute.writeColumn_eq_ok hc
  rw [hplan, ← hget]
  rfl

theorem names_nodup (hw : Writer.make s registry o = .ok w) :
    (w.columns.map fun c => c.plan.descriptor.name).Nodup := by
  have hnames := congrArg (List.map Prod.fst) (map_getter_columns hw)
  rw [List.map_map, List.map_map] at hnames
  exact (congrArg List.Nodup hnames).mpr s.names_nodup

/-- **The scope of a record holds all of it.** -/
theorem holds_recordScope (hw : Writer.make s registry o = .ok w) (record : ρ) :
    s.Holds o record (w.recordScope record) := by
  intro name value
  have hgetters : (∃ p ∈ w.columns.map fun c => (c.plan.descriptor.name, some c.get),
        ∃ get, p.1 = name ∧ p.2 = some get ∧ get record = value) ↔
      ∃ p ∈ s.attributes.map fun a => (a.name, a.getter? o),
        ∃ get, p.1 = name ∧ p.2 = some get ∧ get record = value := by
    rw [map_getter_columns hw]
  rw [recordScope, Scope.get?_ofList_map_eq_some_iff (names_nodup hw)]
  simpa using hgetters

/-- **No column without an expression looks at the record.** -/
theorem cell_scope_congr {c : WriteColumn ρ} (hc : c.plan.usesExpression = false) (record : ρ)
    (scope scope' : Scope Value) : w.cell record scope c = w.cell record scope' c :=
  congrArg (· >>= _) (Plan.write_scope_congr hc w.options (c.get record) scope scope')

/-- **A writer may as well build the scope of every record:** where it does not, no column looks at
it. -/
theorem convert_eq (w : Writer ρ) (record : ρ) :
    w.convert record = w.columns.mapM (w.cell record (w.recordScope record)) := by
  rw [convert]
  cases hscope : w.needsScope with
  | true => rfl
  | false =>
    refine mapM_congr fun c hc => cell_scope_congr ?_ record _ _
    exact Bool.eq_false_iff.2 fun h => List.any_eq_false.1 hscope c hc h

/-- **The cell of an attribute** asks its expression in the scope of the record. -/
theorem exists_asksExactly_cell (hw : Writer.make s registry o = .ok w) {i : Nat}
    {c : WriteColumn ρ} (hc : w.columns[i]? = some c) (record : ρ) (scope : Scope Value) :
    ∃ a, s.attributes[i]? = some a ∧
      AsksExactly (fun e => (w.answering e).cell record scope c) a.settings.writeExpression
        scope := by
  obtain ⟨hcolumns, hoptions⟩ := make_eq_ok hw
  obtain ⟨a, ha, hcolumn⟩ := Schema.exists_attribute_of_writeColumns hcolumns hc
  have hplanned := (Attribute.exists_writeColumn_iff rfl).1 ⟨c, hcolumn⟩
  have hplan := (Attribute.writesAs_of_writeColumn rfl hcolumn).plan
  subst hoptions
  exact ⟨a, ha, (hplan.asksExactly_write hplanned (c.get record) scope).bind _⟩

end Writer

/-! ## Rows -/

namespace Schema

/-- **What stands for an attribute's own cell** in the scope of a row: the text of the cell, or the
fallback, if there is one and the cell is blank or missing. -/
inductive OwnText (s : Schema ρ) (o : Options) (a : Attribute ρ) (index : Nat)
    (row : Scope String) : String → Prop where
  | cell {text : String} : row.get? a.name = some text → Text.isBlank text = false →
      OwnText s o a index row text
  | fallback {d : Fallback} : row.BlankAt a.name →
      o.FallsBack (s.descriptor a index) a.settings.fallback s.fallback (some d) →
      OwnText s o a index row d.text
  | blank : row.BlankAt a.name →
      o.FallsBack (s.descriptor a index) a.settings.fallback s.fallback none →
      OwnText s o a index row ((row.get? a.name).getD "")

/-- **The scope holds the whole row as texts,** with the attribute's own text alone under its name.
-/
structure Overlays (s : Schema ρ) (o : Options) (row : Scope String) (a : Attribute ρ)
    (index : Nat) (scope : Scope Value) : Prop where
  own : ∃ text, s.OwnText o a index row text ∧ scope.get? a.name = some (.str text)
  others : ∀ name, name ≠ a.name → scope.get? name = (row.get? name).map .str

end Schema

namespace Plan

variable {p : Plan} {a : Attribute ρ} {index : Nat}

theorem ownText_expressionInput (hd : p.descriptor = s.descriptor a index)
    (hf : o.FallsBack (s.descriptor a index) a.settings.fallback s.fallback p.fallback)
    (row : Scope String) : s.OwnText o a index row (p.expressionInput row) := by
  have hcell : p.cellText row = (row.get? a.name).getD "" := by
    rw [cellText, hd]
    rfl
  rw [expressionInput, hcell]
  by_cases hblank : Text.isBlank ((row.get? a.name).getD "") = true
  · have hblankAt := Scope.blankAt_iff.2 hblank
    rw [if_pos hblank]
    cases hfallback : p.fallback with
    | none => exact .blank hblankAt (hfallback ▸ hf)
    | some d => exact .fallback hblankAt (hfallback ▸ hf)
  · rw [if_neg hblank]
    cases hget : row.get? a.name with
    | none =>
      rw [hget] at hblank
      exact absurd Text.isBlank_empty hblank
    | some text =>
      rw [hget] at hblank
      exact .cell hget (Bool.eq_false_iff.2 hblank)

/-- **The scope that a plan reads a row in** holds the whole row. -/
theorem overlays_readScope (hd : p.descriptor = s.descriptor a index)
    (hf : o.FallsBack (s.descriptor a index) a.settings.fallback s.fallback p.fallback)
    (row : Scope String) : s.Overlays o row a index (p.readScope row) := by
  have hname : p.descriptor.name = a.name := congrArg Descriptor.name hd
  refine ⟨⟨_, ownText_expressionInput hd hf row, ?_⟩, fun name hne => ?_⟩
  · rw [readScope, Scope.get?_insert, if_pos hname.symm]
  · rw [readScope, Scope.get?_insert, if_neg (hname ▸ hne), Scope.get?_map]

end Plan

namespace Reader

variable {r : Reader ρ}

/-- The same reader with another evaluator. -/
def answering (r : Reader ρ) (e : Evaluator) : Reader ρ :=
  { r with options := r.options.answering e }

/-- **A reader made with another evaluator** is the same but for it. -/
theorem make_answering (hr : Reader.make s registry o = .ok r) (e : Evaluator) :
    Reader.make s registry (o.answering e) = .ok (r.answering e) := by
  obtain ⟨_, hcodec, h⟩ := bind_eq_ok_iff.1 hr
  obtain ⟨columns, hcolumns, h⟩ := bind_eq_ok_iff.1 h
  obtain ⟨creation, hcreation, h⟩ := bind_eq_ok_iff.1 h
  obtain ⟨_, hassign, h⟩ := bind_eq_ok_iff.1 h
  obtain rfl := Except.ok.inj h
  refine bind_eq_ok_iff.2 ⟨_, hcodec, bind_eq_ok_iff.2 ⟨columns, ?_,
    bind_eq_ok_iff.2 ⟨creation, hcreation, bind_eq_ok_iff.2 ⟨_, hassign, rfl⟩⟩⟩⟩
  rw [s.readColumns_answering, hcolumns]

/-- **The value of an attribute** asks its expression in a scope that holds the whole row. -/
theorem exists_asksExactly_read (hr : Reader.make s registry o = .ok r) {i : Nat}
    {c : ReadColumn ρ} (hc : r.columns[i]? = some c) (row : Scope String) :
    ∃ a, s.attributes[i]? = some a ∧ ∃ scope, s.Overlays o row a i scope ∧
      AsksExactly (fun e => c.plan.read (r.options.answering e) row) a.settings.readExpression
        scope := by
  obtain ⟨hcolumns, hoptions, -⟩ := make_eq_ok hr
  obtain ⟨a, ha, hcolumn⟩ := Schema.exists_attribute_of_readColumns hcolumns hc
  have hplanned := (Attribute.exists_readColumn_iff rfl).1 ⟨c, hcolumn⟩
  have hplan := (Attribute.readsAs_of_readColumn rfl hcolumn).plan
  subst hoptions
  exact ⟨a, ha, _, Plan.overlays_readScope hplan.descriptor hplan.fallback row,
    hplan.asksExactly_read hplanned row⟩

/-- An assignment does not evaluate anything. -/
theorem assignAll_answering (r : Reader ρ) (e : Evaluator) (row : Scope String) (record : ρ)
    (index : Nat) (columns : List (ReadColumn ρ × Value)) :
    (r.answering e).assignAll row record index columns = r.assignAll row record index columns := by
  induction columns generalizing record index with
  | nil => rfl
  | cons column rest ih =>
    rw [assignAll, assignAll]
    exact bind_congr fun next => ih next (index + 1)

/-- **Once the values are read,** nothing is asked. -/
theorem convert_answering (r : Reader ρ) (e : Evaluator) (row : Scope String) :
    (r.answering e).convert row = (do
      let values ← r.columns.mapM fun c => c.plan.read (r.options.answering e) row
      let record ← r.create values
      r.assignAll row record 0 (r.columns.zip values)) := by
  refine bind_congr fun values => bind_congr fun record => ?_
  exact r.assignAll_answering e row record 0 _

end Reader

/-! ## All expressions -/

namespace Schema

/-- **Expressions see the full scope.**  A writer gives what it would give with the scope of every
record.  This scope holds the value of every attribute by its getter, and the cell of an attribute
asks its expression in it and nothing else.  The value of an attribute in a row asks its expression
in a scope that holds all texts of the row, and under the name of this attribute alone its own text:
that of the cell, or the fallback, if there is one and the cell is blank or missing.  Nothing is
asked to make a writer or a reader, nor once the values are read. -/
theorem expressions_see_all (s : Schema ρ) (registry : Registry) (o : Options) :
    (∀ (w : Writer ρ) (record : ρ),
      w.convert record = w.columns.mapM (w.cell record (w.recordScope record))) ∧
    (∀ w, Writer.make s registry o = .ok w →
      (∀ e, Writer.make s registry (o.answering e) = .ok (w.answering e)) ∧
      ∀ record, s.Holds o record (w.recordScope record) ∧
        ∀ (i : Nat) c, w.columns[i]? = some c → ∃ a, s.attributes[i]? = some a ∧
          AsksExactly (fun e => (w.answering e).cell record (w.recordScope record) c)
            a.settings.writeExpression (w.recordScope record)) ∧
    ∀ r, Reader.make s registry o = .ok r →
      (∀ e, Reader.make s registry (o.answering e) = .ok (r.answering e)) ∧
      ∀ row, (∀ e, (r.answering e).convert row = (do
          let values ← r.columns.mapM fun c => c.plan.read (r.options.answering e) row
          let record ← r.create values
          r.assignAll row record 0 (r.columns.zip values))) ∧
        ∀ (i : Nat) c, r.columns[i]? = some c → ∃ a, s.attributes[i]? = some a ∧
          ∃ scope, s.Overlays o row a i scope ∧
            AsksExactly (fun e => c.plan.read (r.options.answering e) row)
              a.settings.readExpression scope := by
  refine ⟨Writer.convert_eq, fun w hw => ⟨Writer.make_answering hw, fun record => ?_⟩,
    fun r hr => ⟨Reader.make_answering hr, fun row => ?_⟩⟩
  · exact ⟨Writer.holds_recordScope hw record, fun i c hc =>
      Writer.exists_asksExactly_cell hw hc record _⟩
  · exact ⟨fun e => r.convert_answering e row, fun i c hc =>
      Reader.exists_asksExactly_read hr hc row⟩

/-- Names, and greetings made of them. -/
def greetings : Schema SlotRecord where
  name := "Greeting"
  fallback := none
  attributes :=
    [{ name := "name", type := .scalar .string
       fieldGet := some (SlotRecord.getter "name")
       fieldSet := some (SlotRecord.setter "name" .any) },
      { name := "greeting", type := .scalar .string
        fieldGet := some (SlotRecord.getter "greeting")
        fieldSet := some (SlotRecord.setter "greeting" .any)
        settings := {
          fallback := some "hello"
          readExpression := some "greeting"
          writeExpression := some "name" } }]
  creators := [.constant "new" .empty]
  checked := by decide

/-- Gives the value of a name. -/
def lookUp : Evaluator := fun name scope =>
  (scope.get? name).elim (.error "no value") .ok

/-- A greeting is written from the name beside it, and read as the fallback where its cell is
missing. -/
theorem expressions_see_all_greetings :
    ∃ w r, Writer.make greetings .builtin { evaluator := some lookUp } = .ok w ∧
      Reader.make greetings .builtin { evaluator := some lookUp } = .ok r ∧
      w.convert (.ofList [("name", .str "Ann")]) =
        .ok [⟨"name", "name", some "Ann"⟩, ⟨"greeting", "greeting", some "Ann"⟩] ∧
      r.convert (.ofList [("name", "Ann")]) =
        .ok (.ofList [("name", .str "Ann"), ("greeting", .str "hello")]) ∧
      (∀ record, ∀ c ∈ w.columns[1]?,
        AsksExactly (fun e => (w.answering e).cell record (w.recordScope record) c) (some "name")
          (w.recordScope record)) ∧
      ∀ row, ∀ c ∈ r.columns[1]?, ∃ scope,
        (∃ text, scope.get? "greeting" = some (.str text)) ∧
          scope.get? "name" = (row.get? "name").map .str ∧
          AsksExactly (fun e => c.plan.read (r.options.answering e) row)
            (some "greeting") scope := by
  obtain ⟨-, hwriter, hreader⟩ :=
    expressions_see_all greetings .builtin { evaluator := some lookUp }
  refine ⟨_, _, rfl, rfl, rfl, rfl, fun record c hc => ?_, fun row c hc => ?_⟩
  · obtain ⟨_, ⟨⟩, hasks⟩ := ((hwriter _ rfl).2 record).2 1 c hc
    exact hasks
  · obtain ⟨_, ⟨⟩, scope, hscope, hasks⟩ := ((hreader _ rfl).2 row).2 1 c hc
    obtain ⟨text, -, hown⟩ := hscope.own
    exact ⟨scope, ⟨text, hown⟩, hscope.others "name" (by decide), hasks⟩

end Schema

end RecordSheet
