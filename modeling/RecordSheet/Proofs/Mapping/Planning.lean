import RecordSheet.Proofs.Decl.Path
import RecordSheet.Proofs.Mapping.Columns

/-!
# Proofs/Mapping/Planning — the plan of an attribute is the declared one

A plan follows the declarations in every part: the expression of its direction or else the handler
of the scalar type, the accessor that is asked for or else the field (`Options.Reaches`), the
nearest fallback (`Options.FallsBack`), and the settings as they stand (`Attribute.Declares`).  An
attribute is planned unless its type does not resolve, nothing evaluates its expression, or nothing
reads it (`Attribute.Unplannable`); the columns of a schema are planned when each of its attributes
is (`Schema.columns_as_declared`).
-/

namespace RecordSheet

variable {ρ φ : Type}

open Outcome

/-! ## What reaches a value -/

namespace Options

variable {o : Options} {type : DeclaredType} {accessor : Option (Accessor φ)} {field : Option φ}

/-- **The accessor of an attribute of the type is used:** it is asked for, visible, and of exactly
the type. -/
structure Conforms (o : Options) (type : DeclaredType) (accessor : Option (Accessor φ))
    (x : Accessor φ) : Prop where
  requested : o.access = .accessor
  declared : accessor = some x
  visible : x.visible = true
  type_eq : x.type = type

/-- **What reaches a value,** and whether it is an accessor: the one to use, or else the field. -/
inductive Reaches (o : Options) (type : DeclaredType) (accessor : Option (Accessor φ))
    (field : Option φ) : Bool → Option φ → Prop where
  | accessor {x : Accessor φ} : o.Conforms type accessor x →
      Reaches o type accessor field true (some x.run)
  | field : (∀ x, ¬ o.Conforms type accessor x) → Reaches o type accessor field false field

theorem conforming?_eq_some_iff {x : Accessor φ} :
    o.conforming? type accessor = some x ↔ o.Conforms type accessor x := by
  rw [conforming?, Option.filter_eq_some_iff, Bool.and_eq_true, Bool.and_eq_true, decide_eq_true_eq,
    decide_eq_true_eq]
  exact ⟨fun ⟨hx, ⟨ha, hv⟩, ht⟩ => ⟨ha, hx, hv, ht⟩, fun h =>
    ⟨h.declared, ⟨h.requested, h.visible⟩, h.type_eq⟩⟩

theorem reaches_reach? (o : Options) (type : DeclaredType) (accessor : Option (Accessor φ))
    (field : Option φ) :
    o.Reaches type accessor field (o.conforming? type accessor).isSome
      (o.reach? type accessor field) := by
  rw [reach?]
  cases h : o.conforming? type accessor with
  | some x => exact .accessor (conforming?_eq_some_iff.1 h)
  | none =>
    refine .field fun x hx => ?_
    rw [conforming?_eq_some_iff.2 hx] at h
    cases h

theorem reach?_eq_none_iff :
    o.reach? type accessor field = none ↔
      (∀ x, ¬ o.Conforms type accessor x) ∧ field = none := by
  rw [reach?, Option.or_eq_none_iff, Option.map_eq_none_iff, Option.eq_none_iff_forall_ne_some]
  simp only [ne_eq, conforming?_eq_some_iff]

/-! ## Fallbacks -/

/-- **The nearest fallback counts:** the attribute's own, then that of its record type, then that of
the run. -/
inductive FallsBack (o : Options) (d : Descriptor) :
    Option String → Option String → Option Fallback → Prop where
  | own {text : String} {inherited : Option String} :
      FallsBack o d (some text) inherited (some ⟨text, .attribute⟩)
  | record {text : String} : FallsBack o d none (some text) (some ⟨text, .record⟩)
  | run {supply : Descriptor → Option String} {text : String} :
      o.fallback = some supply → supply d = some text → FallsBack o d none none (some ⟨text, .run⟩)
  | none : (∀ supply, o.fallback = some supply → supply d = none) → FallsBack o d none none none

theorem fallsBack_resolveFallback (o : Options) (d : Descriptor) (own inherited : Option String) :
    o.FallsBack d own inherited (o.resolveFallback d own inherited) := by
  match own, inherited with
  | some text, inherited => exact .own
  | none, some text => exact .record
  | none, none =>
    rw [resolveFallback]
    cases hsupply : o.fallback with
    | none =>
      refine .none fun supply h => ?_
      cases hsupply.symm.trans h
    | some supply =>
      rw [Option.bind_some]
      cases htext : supply d with
      | some text => exact .run hsupply htext
      | none =>
        refine .none fun supply' h => ?_
        obtain rfl := Option.some.inj (hsupply.symm.trans h)
        exact htext

end Options

/-! ## Plans -/

namespace Attribute

variable {a : Attribute ρ} {d : Descriptor} {inherited : Option String} {registry : Registry}
  {o : Options} {direction : Direction}

/-- **The plan is the one that the attribute declares,** apart from what reaches its value. -/
structure Declares (a : Attribute ρ) (d : Descriptor) (inherited : Option String)
    (registry : Registry) (o : Options) (direction : Direction) (p : Plan) : Prop where
  descriptor : p.descriptor = d
  direction_eq : p.direction = direction
  /-- The shape is the one along the path of the type. -/
  shape : a.type.path.shape? = some p.shape
  handler : p.handler = registry.get? p.shape.leaf
  /-- The expression is the one declared for reading or the one declared for writing. -/
  expression_read : direction = .read → p.expression = a.settings.readExpression
  expression_write : direction = .write → p.expression = a.settings.writeExpression
  /-- The plan converts by its expression when it has one. -/
  uses_expression : p.usesExpression = true ↔ ∃ e, p.expression = some e
  one_conversion : p.usesHandler = !p.usesExpression
  one_access : p.flags.field = !p.flags.accessor
  fallback : o.FallsBack d a.settings.fallback inherited p.fallback
  validators : p.validators = a.settings.validators
  format : p.format = a.settings.format
  header : p.header = a.header

/-- **What keeps an attribute from being planned** in a direction. -/
inductive Unplannable (a : Attribute ρ) (o : Options) : Direction → Prop where
  | unresolved {direction : Direction} : ¬ a.type.path.Resolves → Unplannable a o direction
  | unevaluated_read {e : String} :
      a.settings.readExpression = some e → o.evaluator = none → Unplannable a o .read
  | unevaluated_write {e : String} :
      a.settings.writeExpression = some e → o.evaluator = none → Unplannable a o .write
  | unreadable : (∀ x, ¬ o.Conforms a.type a.accessorGet x) → a.fieldGet = none →
      Unplannable a o .write

/-- The expression of a declared plan is the one of its direction. -/
theorem Declares.expression_eq {p : Plan} (h : a.Declares d inherited registry o direction p) :
    p.expression = a.expression direction := by
  cases direction with
  | read => exact h.expression_read rfl
  | write => exact h.expression_write rfl

/-- The expression of a direction keeps an attribute from being planned when nothing evaluates it.
-/
theorem unplannable_of_expression {e : String} (he : a.expression direction = some e)
    (hnone : o.evaluator = none) : a.Unplannable o direction := by
  cases direction with
  | read => exact .unevaluated_read he hnone
  | write => exact .unevaluated_write he hnone

/-- **An attribute can be planned** when its type resolves, its expression can be evaluated and, on
writing, something reads it. -/
theorem not_unplannable_iff :
    ¬ a.Unplannable o direction ↔
      (a.type.path.Resolves ∧ ∀ e, a.expression direction = some e → o.evaluator ≠ none) ∧
        (direction = .write →
          ¬ ((∀ x, ¬ o.Conforms a.type a.accessorGet x) ∧ a.fieldGet = none)) := by
  constructor
  · intro h
    refine ⟨⟨not_not.1 fun hn => h (.unresolved hn), fun e he hnone => ?_⟩, ?_⟩
    · exact h (unplannable_of_expression he hnone)
    · rintro rfl hread
      exact h (.unreadable hread.1 hread.2)
  · rintro ⟨⟨hresolves, heval⟩, hread⟩ h
    cases h with
    | unresolved h => exact h hresolves
    | unevaluated_read he hnone | unevaluated_write he hnone => exact heval _ he hnone
    | unreadable haccessor hfield => exact hread rfl ⟨haccessor, hfield⟩

/-- **A plan that an attribute allows is declared.** -/
theorem declares_of_plan (hd : d.type = a.type) {accessor : Bool} {p : Plan}
    (h : a.plan d inherited registry o direction accessor = .ok p) :
    a.Declares d inherited registry o direction p ∧ p.flags.accessor = accessor := by
  obtain ⟨shape, hshape, -, rfl⟩ := plan_eq_ok_iff.1 h
  refine ⟨⟨rfl, rfl, ?_, rfl, ?_, ?_, Option.isSome_iff_exists, ?_, rfl,
    o.fallsBack_resolveFallback d _ _, rfl, rfl, rfl⟩, rfl⟩
  · rw [← hd]
    exact (DeclaredType.shape_eq_ok_iff.1 hshape).1
  · rintro rfl
    rfl
  · rintro rfl
    rfl
  · change (a.expression direction).isNone = !(a.expression direction).isSome
    cases a.expression direction <;> rfl

/-- An attribute has a plan when its type resolves and its expression can be evaluated. -/
theorem exists_plan_iff (hd : d.type = a.type) {accessor : Bool} :
    (∃ p, a.plan d inherited registry o direction accessor = .ok p) ↔
      a.type.path.Resolves ∧ ∀ e, a.expression direction = some e → o.evaluator ≠ none := by
  have heval : ((a.expression direction).isSome → o.evaluator.isSome) ↔
      ∀ e, a.expression direction = some e → o.evaluator ≠ none := by
    rw [Option.isSome_iff_ne_none (o := o.evaluator), Option.isSome_iff_exists, forall_exists_index]
  rw [← hd, ← DeclaredType.exists_shape_iff, ← heval]
  simp only [plan_eq_ok_iff]
  constructor
  · rintro ⟨_, shape, hshape, he, -⟩
    exact ⟨⟨shape, hshape⟩, he⟩
  · rintro ⟨⟨shape, hshape⟩, he⟩
    exact ⟨_, shape, hshape, he, rfl⟩

/-! ## Columns -/

/-- **The column to write is the one declared,** and reads the value by what reaches it. -/
structure WritesAs (a : Attribute ρ) (d : Descriptor) (inherited : Option String)
    (registry : Registry) (o : Options) (c : WriteColumn ρ) : Prop where
  plan : a.Declares d inherited registry o .write c.plan
  get : o.Reaches a.type a.accessorGet a.fieldGet c.plan.flags.accessor (some c.get)

/-- **The column to read is the one declared,** and assigns the value by what reaches it, if
anything does. -/
structure ReadsAs (a : Attribute ρ) (d : Descriptor) (inherited : Option String)
    (registry : Registry) (o : Options) (c : ReadColumn ρ) : Prop where
  plan : a.Declares d inherited registry o .read c.plan
  set : o.Reaches a.type a.accessorSet a.fieldSet c.plan.flags.accessor c.set

theorem writesAs_of_writeColumn (hd : d.type = a.type) {c : WriteColumn ρ}
    (h : a.writeColumn d inherited registry o = .ok c) : a.WritesAs d inherited registry o c := by
  obtain ⟨p, hp, h⟩ := bind_eq_ok_iff.1 h
  obtain ⟨hplan, haccess⟩ := declares_of_plan hd hp
  have hreach := o.reaches_reach? d.type a.accessorGet a.fieldGet
  cases hget : o.reach? d.type a.accessorGet a.fieldGet with
  | none =>
    rw [hget] at h
    cases h
  | some get =>
    rw [hget] at h hreach
    obtain rfl := Except.ok.inj h
    rw [hd] at haccess hreach
    exact ⟨hplan, haccess ▸ hreach⟩

theorem readsAs_of_readColumn (hd : d.type = a.type) {c : ReadColumn ρ}
    (h : a.readColumn d inherited registry o = .ok c) : a.ReadsAs d inherited registry o c := by
  obtain ⟨p, hp, h⟩ := bind_eq_ok_iff.1 h
  obtain ⟨hplan, haccess⟩ := declares_of_plan hd hp
  obtain rfl := Except.ok.inj h
  refine ⟨hplan, ?_⟩
  rw [haccess, hd]
  exact o.reaches_reach? a.type a.accessorSet a.fieldSet

/-- **An attribute has a column to write** unless it cannot be planned. -/
theorem exists_writeColumn_iff (hd : d.type = a.type) :
    (∃ c, a.writeColumn d inherited registry o = .ok c) ↔ ¬ a.Unplannable o .write := by
  have hcolumn : (∃ c, a.writeColumn d inherited registry o = .ok c) ↔
      (∃ p, a.plan d inherited registry o .write
          (o.conforming? d.type a.accessorGet).isSome = .ok p) ∧
        ¬ o.reach? d.type a.accessorGet a.fieldGet = none := by
    constructor
    · rintro ⟨c, h⟩
      obtain ⟨p, hp, h⟩ := bind_eq_ok_iff.1 h
      refine ⟨⟨p, hp⟩, fun hnone => ?_⟩
      rw [hnone] at h
      cases h
    · rintro ⟨⟨p, hp⟩, hreach⟩
      obtain ⟨get, hget⟩ := Option.ne_none_iff_exists'.1 hreach
      exact ⟨⟨p, get⟩, bind_eq_ok_iff.2 ⟨p, hp, by rw [hget]; rfl⟩⟩
  rw [hcolumn, exists_plan_iff hd, hd, Options.reach?_eq_none_iff, not_unplannable_iff]
  exact and_congr_right' (imp_iff_right rfl).symm

/-- **An attribute has a column to read** unless it cannot be planned. -/
theorem exists_readColumn_iff (hd : d.type = a.type) :
    (∃ c, a.readColumn d inherited registry o = .ok c) ↔ ¬ a.Unplannable o .read := by
  have hcolumn : (∃ c, a.readColumn d inherited registry o = .ok c) ↔
      ∃ p, a.plan d inherited registry o .read
        (o.conforming? d.type a.accessorSet).isSome = .ok p := by
    constructor
    · rintro ⟨c, h⟩
      obtain ⟨p, hp, -⟩ := bind_eq_ok_iff.1 h
      exact ⟨p, hp⟩
    · rintro ⟨p, hp⟩
      exact ⟨_, bind_eq_ok_iff.2 ⟨p, hp, rfl⟩⟩
  rw [hcolumn, exists_plan_iff hd, not_unplannable_iff]
  exact (and_iff_left nofun).symm

end Attribute

/-! ## Schemas -/

namespace Schema

/-- **The columns of a schema in a direction are settled:** there is one for each attribute, in
order and as declared, and every attribute can be planned; or the declarations are to blame, as one
of the attributes cannot. -/
inductive Settled {κ : Type} (s : Schema ρ) (o : Options) (direction : Direction)
    (IsColumn : Attribute ρ → Descriptor → κ → Prop) (outcome : Except SetupFault (List κ)) :
    Prop where
  | planned {columns : List κ} : outcome = .ok columns →
      List.Forall₂ (fun e c => IsColumn e.1 (s.descriptor e.1 e.2) c) s.attributes.zipIdx columns →
      (∀ a ∈ s.attributes, ¬ a.Unplannable o direction) → Settled s o direction IsColumn outcome
  | refused {f : SetupFault} : outcome = .error f → f.OfDeclarations →
      (∃ a ∈ s.attributes, a.Unplannable o direction) → Settled s o direction IsColumn outcome

/-- **What is made of each attribute** settles what is made of all of them. -/
theorem settled_mapM {κ : Type} {s : Schema ρ} {o : Options} {direction : Direction}
    {IsColumn : Attribute ρ → Descriptor → κ → Prop}
    {make : Attribute ρ × Descriptor → Except SetupFault κ}
    (hcolumn : ∀ a i c, make (a, s.descriptor a i) = .ok c → IsColumn a (s.descriptor a i) c)
    (hexists : ∀ a i, (∃ c, make (a, s.descriptor a i) = .ok c) ↔ ¬ a.Unplannable o direction)
    (hfails : ∀ e, FailsOnly SetupFault.OfDeclarations (make e)) :
    s.Settled o direction IsColumn (s.described.mapM make) := by
  have hall : (∃ columns, s.described.mapM make = .ok columns) ↔
      ∀ a ∈ s.attributes, ¬ a.Unplannable o direction := by
    rw [exists_mapM_eq_ok_iff, described, List.forall_mem_map]
    simp only [hexists]
    conv_rhs => rw [← List.zipIdx_map_fst 0 s.attributes, List.forall_mem_map]
  cases houtcome : s.described.mapM make with
  | ok columns =>
    refine .planned rfl ?_ (hall.1 ⟨columns, houtcome⟩)
    have hcolumns := mapM_eq_ok_iff.1 houtcome
    rw [described, List.forall₂_map_left_iff] at hcolumns
    exact hcolumns.imp fun e c h => hcolumn e.1 e.2 c h
  | error f =>
    refine .refused rfl (failsOnly_mapM (fun e _ => hfails e) f houtcome) ?_
    by_contra hnone
    obtain ⟨columns, h⟩ := hall.2 fun a ha hun => hnone ⟨a, ha, hun⟩
    cases h.symm.trans houtcome

/-- **The plans of a schema are the declared ones.**  In each direction there is one column for each
attribute, in order: it converts by the expression declared for the direction exactly when there is
one and by the handler otherwise, reaches the value through a conforming accessor or else through
the field, and falls back on the attribute, the record type or the run.  The columns are refused
exactly when the type of some attribute does not resolve, nothing evaluates its expression or, on
writing, nothing reads it. -/
theorem columns_as_declared (s : Schema ρ) (registry : Registry) (o : Options) :
    s.Settled o .write (fun a d c => a.WritesAs d s.fallback registry o c)
        (s.writeColumns registry o) ∧
      s.Settled o .read (fun a d c => a.ReadsAs d s.fallback registry o c)
        (s.readColumns registry o) := by
  constructor
  · exact settled_mapM (fun _ _ _ => Attribute.writesAs_of_writeColumn rfl)
      (fun _ _ => Attribute.exists_writeColumn_iff rfl)
      fun e => Attribute.failsOnly_writeColumn e.1 e.2 _
  · exact settled_mapM (fun _ _ _ => Attribute.readsAs_of_readColumn rfl)
      (fun _ _ => Attribute.exists_readColumn_iff rfl)
      fun e => Attribute.failsOnly_readColumn e.1 e.2 _

/-- Names that are read by one expression and written by another one. -/
def initials : Schema Unit where
  name := "Initial"
  fallback := none
  attributes :=
    [{ name := "name", type := .scalar .string, fieldGet := some fun _ => .null
       settings := { readExpression := some "unfold", writeExpression := some "fold" } }]
  creators := [.constant "new" ()]
  checked := by decide

/-- The column to write has the expression for writing, the one to read that for reading, and
without an evaluator there is neither. -/
theorem columns_as_declared_initials :
    (∃ c, initials.writeColumns .builtin { evaluator := some fun _ _ => .ok .null } = .ok [c] ∧
        c.plan.expression = some "fold" ∧ c.plan.usesExpression = true) ∧
      (∃ c, initials.readColumns .builtin { evaluator := some fun _ _ => .ok .null } = .ok [c] ∧
        c.plan.expression = some "unfold" ∧ c.plan.usesExpression = true) ∧
      (∃ f, initials.writeColumns .builtin {} = .error f ∧ f.OfDeclarations) ∧
      ∃ f, initials.readColumns .builtin {} = .error f ∧ f.OfDeclarations := by
  obtain ⟨hwrite, hread⟩ :=
    columns_as_declared initials .builtin { evaluator := some fun _ _ => .ok .null }
  obtain ⟨hwrite', hread'⟩ := columns_as_declared initials .builtin {}
  refine ⟨?_, ?_, ?_, ?_⟩
  · obtain ⟨hok, hcolumns, -⟩ | ⟨⟨⟩⟩ := hwrite
    cases hcolumns with
    | cons hc hnil =>
      cases hnil
      have hexpression := hc.plan.expression_write rfl
      exact ⟨_, hok, hexpression, hc.plan.uses_expression.2 ⟨_, hexpression⟩⟩
  · obtain ⟨hok, hcolumns, -⟩ | ⟨⟨⟩⟩ := hread
    cases hcolumns with
    | cons hc hnil =>
      cases hnil
      have hexpression := hc.plan.expression_read rfl
      exact ⟨_, hok, hexpression, hc.plan.uses_expression.2 ⟨_, hexpression⟩⟩
  · obtain ⟨⟨⟩⟩ | ⟨herror, hf, -⟩ := hwrite'
    exact ⟨_, herror, hf⟩
  · obtain ⟨⟨⟩⟩ | ⟨herror, hf, -⟩ := hread'
    exact ⟨_, herror, hf⟩

end Schema

end RecordSheet
