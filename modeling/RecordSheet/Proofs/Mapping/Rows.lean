import RecordSheet.Proofs.Mapping.Columns
import RecordSheet.Proofs.Mapping.Reader
import RecordSheet.Proofs.Mapping.Route
import RecordSheet.Record.Slots

/-!
# Proofs/Mapping/Rows — what a reader sees of a row

Re-keying a row keeps exactly the cells of the attributes, each under the name of its own, as no two
attributes share a name or a header (`Reader.get?_rekey_attribute`).

Of a row keyed by names a reader sees the texts of its attributes' cells, and no difference between
blank cells.  The values are the same on two rows that differ in nothing else
(`Reader.values_congr`), so the rows come to one record or stop at one step (`Reader.StopsAt`).
Only what a setter objects to is quoted with the text of the cell, and there the blank may show
(`Failure.Alike`).
-/

namespace RecordSheet

variable {ρ : Type}

open Outcome

namespace Scope

/-- The name is missing, or has a blank text. -/
def BlankAt (row : Scope String) (name : String) : Prop :=
  ∀ text ∈ row.get? name, Text.isBlank text = true

/-- The rows have one text under the name, or both are blank there. -/
def SameAt (row row' : Scope String) (name : String) : Prop :=
  row.get? name = row'.get? name ∨ row.BlankAt name ∧ row'.BlankAt name

variable {row : Scope String} {name : String}

theorem blankAt_iff : row.BlankAt name ↔ Text.isBlank ((row.get? name).getD "") = true := by
  rw [BlankAt]
  cases row.get? name with
  | none => exact iff_of_true nofun Text.isBlank_empty
  | some text => exact ⟨fun h => h text rfl, fun h => by rintro _ ⟨⟩; exact h⟩

end Scope

/-- **The failures differ at most in a blank text that they quote.** -/
inductive Failure.Alike : Failure → Failure → Prop where
  | same (f : Failure) : Alike f f
  | blank {name type raw raw' message : String} :
      Text.isBlank raw = true → Text.isBlank raw' = true →
      Alike (.conversion name type raw message) (.conversion name type raw' message)

/-! ## Cells -/

namespace Plan

variable {p : Plan} {row row' : Scope String}

/-- Rows that are the same at the attribute have one text in its cell, or blank ones. -/
theorem cellText_of_sameAt (h : row.SameAt row' p.descriptor.name) :
    p.cellText row = p.cellText row' ∨
      Text.isBlank (p.cellText row) = true ∧ Text.isBlank (p.cellText row') = true :=
  h.imp (congrArg (Option.getD · "")) fun ⟨h, h'⟩ =>
    ⟨Scope.blankAt_iff.1 h, Scope.blankAt_iff.1 h'⟩

/-- **All blank cells are read alike.** -/
theorem readText_congr {c : SequenceCodec} {s t : String}
    (h : s = t ∨ Text.isBlank s = true ∧ Text.isBlank t = true) :
    p.readText c s = p.readText c t := by
  obtain rfl | ⟨hs, ht⟩ := h
  · rfl
  · rw [readText, readText, if_pos hs, if_pos ht]

/-- **Without an expression** a plan sees its own cell only. -/
theorem read_congr (hp : p.usesExpression = false) (o : Options)
    (h : row.SameAt row' p.descriptor.name) : p.read o row = p.read o row' := by
  rw [read, read]
  cases hroute : p.route? o with
  | none => rfl
  | some r =>
    obtain rfl := eq_handler_of_route? hp hroute
    exact readText_congr (cellText_of_sameAt h)

end Plan

/-- A step on the way from a row to a record. -/
inductive ReadStep where
  /-- The value of the attribute at a position is read. -/
  | value (index : Nat)
  | creation
  /-- The value of the attribute at a position is assigned. -/
  | assignment (index : Nat)
deriving DecidableEq, Repr

namespace Reader

/-! ## Rows keyed by headers -/

section Headers

variable {s : Schema ρ} {registry : Registry} {o : Options} {r : Reader ρ}

/-- **The names and headers of the columns are those of the attributes,** in order. -/
theorem map_keys_columns (hr : Reader.make s registry o = .ok r) :
    (r.columns.map fun c => (c.plan.descriptor.name, c.plan.header)) =
      s.attributes.map fun a => (a.name, a.header) := by
  obtain ⟨hcolumns, -⟩ := make_eq_ok hr
  refine Schema.map_eq_map_attributes hcolumns fun a i c hc => ?_
  obtain ⟨_, _, -, hplan, -⟩ := Attribute.readColumn_eq_ok hc
  rw [hplan]
  rfl

theorem headers_nodup (hr : Reader.make s registry o = .ok r) : r.headers.Nodup := by
  have hkeys := congrArg (List.map Prod.snd) (map_keys_columns hr)
  rw [List.map_map, List.map_map] at hkeys
  exact (congrArg List.Nodup hkeys).mpr s.headers_nodup

theorem names_nodup (hr : Reader.make s registry o = .ok r) :
    (r.columns.map fun c => c.plan.descriptor.name).Nodup := by
  have hkeys := congrArg (List.map Prod.fst) (map_keys_columns hr)
  rw [List.map_map, List.map_map] at hkeys
  exact (congrArg List.Nodup hkeys).mpr s.names_nodup

/-- **A re-keyed row** has under a name what the row has under the header of the attribute. -/
theorem get?_rekey_iff (hr : Reader.make s registry o = .ok r) {row : Scope String}
    {name text : String} :
    (r.rekey row).get? name = some text ↔
      ∃ a ∈ s.attributes, a.name = name ∧ row.get? a.header = some text := by
  have hkeys : (∃ e ∈ r.columns.map fun c => (c.plan.descriptor.name, c.plan.header),
        e.1 = name ∧ row.get? e.2 = some text) ↔
      ∃ e ∈ s.attributes.map fun a => (a.name, a.header),
        e.1 = name ∧ row.get? e.2 = some text := by
    rw [map_keys_columns hr]
  rw [get?_rekey (headers_nodup hr) (names_nodup hr)]
  simpa only [List.mem_map, exists_exists_and_eq_and] using hkeys

/-- **No column is lost and none is mixed up.**  A re-keyed row has under the name of each attribute
the text that the row has under its header, if there is one, and under no other name anything. -/
theorem get?_rekey_attribute (hr : Reader.make s registry o = .ok r) (row : Scope String) :
    (∀ a ∈ s.attributes, (r.rekey row).get? a.name = row.get? a.header) ∧
      ∀ name ∈ (r.rekey row).names, ∃ a ∈ s.attributes, a.name = name ∧ a.header ∈ row.names := by
  refine ⟨fun a ha => Option.ext fun text => ?_, fun name hname => ?_⟩
  · rw [get?_rekey_iff hr]
    refine ⟨?_, fun h => ⟨a, ha, rfl, h⟩⟩
    rintro ⟨b, hb, hname, h⟩
    rwa [← List.inj_on_of_nodup_map s.names_nodup hb ha hname]
  · obtain ⟨text, h⟩ := Scope.mem_names_iff.1 hname
    obtain ⟨a, ha, hname, h⟩ := (get?_rekey_iff hr).1 h
    exact ⟨a, ha, hname, Scope.mem_names_iff.2 ⟨text, h⟩⟩

/-- Rows of two texts, each under the name of the other. -/
def crossedRows : Schema SlotRecord :=
  ⟨"Row", none, [⟨"first", .scalar .string, none, some (SlotRecord.setter "first" .any), none, none,
      { header := some "second" }⟩,
    ⟨"second", .scalar .string, none, some (SlotRecord.setter "second" .any), none, none,
      { header := some "first" }⟩],
    [.constant "make" .empty], rfl⟩

/-- Crossed headers and a column of no attribute. -/
theorem get?_rekey_attribute_crossed :
    let row : Scope String := .ofList [("first", "1"), ("second", "2"), ("third", "3")]
    ∃ r, Reader.make crossedRows .builtin {} = .ok r ∧
      r.rekey row = .ofList [("first", "2"), ("second", "1")] ∧
      ∀ a ∈ crossedRows.attributes, (r.rekey row).get? a.name = row.get? a.header := by
  intro row
  refine ⟨_, rfl, rfl, ?_⟩
  have hr : Reader.make crossedRows .builtin {} = .ok _ := rfl
  exact (get?_rekey_attribute hr row).1

end Headers

/-! ## Rows keyed by names -/

section Names

variable {r : Reader ρ} {row row' : Scope String} {f : Failure} {step : ReadStep}

/-- **Where the conversion of a row stops:** at the first value that cannot be read, at the creator,
or at the first assignment that fails. -/
inductive StopsAt (r : Reader ρ) (row : Scope String) : ReadStep → Failure → Prop where
  | value {front back : List (ReadColumn ρ)} {column : ReadColumn ρ} {f : Failure} :
      r.columns = front ++ column :: back →
      (∀ c ∈ front, ∃ v, c.plan.read r.options row = .ok v) →
      column.plan.read r.options row = .error f → StopsAt r row (.value front.length) f
  | creation {values : List Value} {f : Failure} :
      r.values row = .ok values → r.create values = .error f → StopsAt r row .creation f
  | assignment {values : List Value} {x y : ρ} {front back : List (ReadColumn ρ × Value)}
      {column : ReadColumn ρ} {v : Value} {f : Failure} :
      r.values row = .ok values → r.create values = .ok x →
      r.columns.zip values = front ++ (column, v) :: back → r.assignAll row x 0 front = .ok y →
      r.assign row y column v front.length = .error f → StopsAt r row (.assignment front.length) f

/-- A run of assignments fails at the first one that does. -/
theorem assignAll_eq_error_iff {x : ρ} {index : Nat} {columns : List (ReadColumn ρ × Value)} :
    r.assignAll row x index columns = .error f ↔
      ∃ front column v back y, columns = front ++ (column, v) :: back ∧
        r.assignAll row x index front = .ok y ∧
        r.assign row y column v (index + front.length) = .error f := by
  induction columns generalizing x index with
  | nil =>
    refine ⟨nofun, ?_⟩
    rintro ⟨front, column, v, back, y, h, -⟩
    cases List.append_eq_nil_iff.1 h.symm |>.2
  | cons e rest ih =>
    obtain ⟨column, v⟩ := e
    rw [assignAll, bind_eq_error_iff]
    constructor
    · rintro (h | ⟨next, hnext, h⟩)
      · exact ⟨[], column, v, rest, x, rfl, rfl, h⟩
      · obtain ⟨front, column', v', back, y, rfl, hfront, h⟩ := ih.1 h
        refine ⟨(column, v) :: front, column', v', back, y, rfl,
          bind_eq_ok_iff.2 ⟨next, hnext, hfront⟩, ?_⟩
        rwa [List.length_cons, Nat.add_comm front.length, ← Nat.add_assoc]
    · rintro ⟨front, column', v', back, y, heq, hfront, h⟩
      cases front with
      | nil =>
        obtain ⟨⟨⟩, rfl⟩ := List.cons.inj heq
        obtain rfl := Except.ok.inj hfront
        exact .inl h
      | cons e front =>
        obtain ⟨rfl, rfl⟩ := List.cons.inj heq
        obtain ⟨next, hnext, hfront⟩ := bind_eq_ok_iff.1 hfront
        refine .inr ⟨next, hnext, ih.2 ⟨front, column', v', back, y, rfl, hfront, ?_⟩⟩
        rwa [List.length_cons, Nat.add_comm front.length, ← Nat.add_assoc] at h

/-- **A row fails where its conversion stops.** -/
theorem convert_eq_error_iff : r.convert row = .error f ↔ ∃ step, r.StopsAt row step f := by
  rw [convert, bind_eq_error_iff]
  constructor
  · rintro (h | ⟨values, hvalues, h⟩)
    · obtain ⟨front, column, back, hcolumns, hfront, h⟩ := mapM_eq_error_iff.1 h
      exact ⟨_, .value hcolumns hfront h⟩
    · obtain h | ⟨x, hx, h⟩ := bind_eq_error_iff.1 h
      · exact ⟨_, .creation hvalues h⟩
      · obtain ⟨front, column, v, back, y, hcolumns, hfront, h⟩ := assignAll_eq_error_iff.1 h
        rw [Nat.zero_add] at h
        exact ⟨_, .assignment hvalues hx hcolumns hfront h⟩
  · rintro ⟨step, h⟩
    cases h with
    | value hcolumns hfront h => exact .inl (mapM_eq_error_iff.2 ⟨_, _, _, hcolumns, hfront, h⟩)
    | creation hvalues h => exact .inr ⟨_, hvalues, bind_eq_error_iff.2 (.inl h)⟩
    | assignment hvalues hx hcolumns hfront h =>
      rw [← Nat.zero_add (List.length _)] at h
      refine .inr ⟨_, hvalues, bind_eq_error_iff.2 (.inr ⟨_, hx, ?_⟩)⟩
      exact assignAll_eq_error_iff.2 ⟨_, _, _, _, _, hcolumns, hfront, h⟩

/-! ### Two rows -/

/-- The rows are the same at each attribute. -/
def SameCells (r : Reader ρ) (row row' : Scope String) : Prop :=
  ∀ c ∈ r.columns, row.SameAt row' c.plan.descriptor.name

/-- The rows come to one record, or stop at one step by failures that are alike. -/
inductive ConvertsAlike (r : Reader ρ) (row row' : Scope String) : Prop where
  | record {x : ρ} : r.convert row = .ok x → r.convert row' = .ok x → ConvertsAlike r row row'
  | failure {step : ReadStep} {f f' : Failure} : r.convert row = .error f →
      r.convert row' = .error f' → r.StopsAt row step f → r.StopsAt row' step f' → f.Alike f' →
      ConvertsAlike r row row'

/-- **The values are the same on rows with the same cells.** -/
theorem values_congr (hr : ∀ c ∈ r.columns, c.plan.usesExpression = false)
    (h : r.SameCells row row') : r.values row = r.values row' := by
  rw [values, values]
  exact mapM_congr fun c hc => Plan.read_congr (hr c hc) _ (h c hc)

/-- Whether assignments succeed does not depend on the row. -/
theorem assignAll_eq_ok_of_eq_ok {x y : ρ} {index : Nat} {columns : List (ReadColumn ρ × Value)}
    (h : r.assignAll row x index columns = .ok y) (row' : Scope String) :
    r.assignAll row' x index columns = .ok y := by
  induction columns generalizing x index with
  | nil => exact h
  | cons e rest ih =>
    obtain ⟨next, hnext, hrest⟩ := bind_eq_ok_iff.1 h
    exact bind_eq_ok_iff.2 ⟨next, assign_eq_ok_iff.2 (assign_eq_ok_iff.1 hnext), ih hrest⟩

/-- **What a setter objects to** is quoted with the text of the cell, so the blank may show. -/
theorem exists_alike_of_assign {x : ρ} {column : ReadColumn ρ} {v : Value} {index : Nat}
    (hcell : row.SameAt row' column.plan.descriptor.name)
    (h : r.assign row x column v index = .error f) :
    ∃ f', r.assign row' x column v index = .error f' ∧ f.Alike f' := by
  rw [assign_eq, mapError_eq_error_iff] at h
  obtain ⟨message, hmessage, rfl⟩ := h
  refine ⟨_, (assign_eq ..).trans (mapError_eq_error_iff.2 ⟨message, hmessage, rfl⟩), ?_⟩
  obtain htext | ⟨hblank, hblank'⟩ := Plan.cellText_of_sameAt hcell
  · rw [htext]
    exact .same _
  · exact .blank hblank hblank'

/-- **Rows with the same cells stop at one step.** -/
theorem StopsAt.exists_alike (h : r.StopsAt row step f)
    (hr : ∀ c ∈ r.columns, c.plan.usesExpression = false) (hsame : r.SameCells row row') :
    ∃ f', r.StopsAt row' step f' ∧ f.Alike f' := by
  have hread : ∀ c ∈ r.columns, c.plan.read r.options row = c.plan.read r.options row' :=
    fun c hc => Plan.read_congr (hr c hc) _ (hsame c hc)
  have hvalues := values_congr hr hsame
  cases h with
  | @value front back column _ hcolumns hfront h =>
    have hmem : ∀ c ∈ front ++ [column], c ∈ r.columns := fun c hc => by
      rw [hcolumns, List.append_cons]
      exact List.mem_append_left _ hc
    refine ⟨f, .value hcolumns (fun c hc => ?_) ?_, .same f⟩
    · rw [← hread c (hmem c (List.mem_append_left _ hc))]
      exact hfront c hc
    · rw [← hread column (hmem column List.mem_concat_self)]
      exact h
  | creation hrow h => exact ⟨f, .creation (hvalues ▸ hrow) h, .same f⟩
  | @assignment values _ _ front _ column v _ hrow hx hcolumns hfront h =>
    have hmem : (column, v) ∈ r.columns.zip values := hcolumns ▸ List.mem_append_cons_self
    obtain ⟨f', hf', halike⟩ := exists_alike_of_assign (hsame column (List.of_mem_zip hmem).1) h
    exact ⟨f', .assignment (hvalues ▸ hrow) hx hcolumns (assignAll_eq_ok_of_eq_ok hfront row') hf',
      halike⟩

theorem convert_eq_ok_of_sameCells (hr : ∀ c ∈ r.columns, c.plan.usesExpression = false)
    (hsame : r.SameCells row row') {x : ρ} (h : r.convert row = .ok x) :
    r.convert row' = .ok x := by
  obtain ⟨values, hvalues, h⟩ := bind_eq_ok_iff.1 h
  obtain ⟨y, hy, h⟩ := bind_eq_ok_iff.1 h
  rw [values_congr hr hsame] at hvalues
  have hassigned := assignAll_eq_ok_of_eq_ok h row'
  exact bind_eq_ok_iff.2 ⟨values, hvalues, bind_eq_ok_iff.2 ⟨y, hy, hassigned⟩⟩

/-- **Rows with the same cells convert alike.** -/
theorem convertsAlike_of_sameCells (hr : ∀ c ∈ r.columns, c.plan.usesExpression = false)
    (hsame : r.SameCells row row') : r.ConvertsAlike row row' := by
  cases hrow : r.convert row with
  | ok x => exact .record hrow (convert_eq_ok_of_sameCells hr hsame hrow)
  | error f =>
    obtain ⟨step, hstop⟩ := convert_eq_error_iff.1 hrow
    obtain ⟨f', hstop', halike⟩ := hstop.exists_alike hr hsame
    exact .failure hrow (convert_eq_error_iff.2 ⟨step, hstop'⟩) hstop hstop' halike

/-- **Without its cell** an attribute does not see a row, nor does an assignment. -/
theorem assignAll_congr {columns : List (ReadColumn ρ × Value)}
    (h : ∀ e ∈ columns, e.1.plan.cellText row = e.1.plan.cellText row') (x : ρ) (index : Nat) :
    r.assignAll row x index columns = r.assignAll row' x index columns := by
  induction columns generalizing x index with
  | nil => rfl
  | cons e rest ih =>
    rw [List.forall_mem_cons] at h
    rw [assignAll, assignAll, assign_eq, assign_eq, h.1]
    exact bind_congr fun next => ih h.2 next (index + 1)

/-- **A column of no attribute** changes nothing. -/
theorem convert_insert_of_unknown (hr : ∀ c ∈ r.columns, c.plan.usesExpression = false)
    {name : String} (hname : ∀ c ∈ r.columns, c.plan.descriptor.name ≠ name) (text : String) :
    r.convert (row.insert name text) = r.convert row := by
  have hget : ∀ c ∈ r.columns,
      (row.insert name text).get? c.plan.descriptor.name = row.get? c.plan.descriptor.name :=
    fun c hc => by rw [Scope.get?_insert, if_neg (hname c hc)]
  rw [convert, convert, values_congr hr fun c hc => .inl (hget c hc)]
  refine bind_congr fun values => bind_congr fun x => assignAll_congr (fun e he => ?_) x 0
  rw [Plan.cellText, Plan.cellText, hget e.1 (List.of_mem_zip he).1]

/-- **A row is read only through its attributes' cells, and all blanks are alike.**  Without
expressions, rows with the same cells come to one record, or stop at one step by failures that
differ at most in a blank text.  So a column of no attribute changes nothing at all, and neither a
missing nor a blank cell can be told from any other blank one. -/
theorem convert_sees_cells (hr : ∀ c ∈ r.columns, c.plan.usesExpression = false) :
    (∀ row row', r.SameCells row row' → r.ConvertsAlike row row') ∧
      (∀ (row : Scope String) (name text : String),
        (∀ c ∈ r.columns, c.plan.descriptor.name ≠ name) →
          r.convert (row.insert name text) = r.convert row) ∧
      ∀ (row : Scope String) (name text : String), row.BlankAt name → Text.isBlank text = true →
        r.ConvertsAlike row (row.insert name text) := by
  refine ⟨fun row row' => convertsAlike_of_sameCells hr,
    fun row name text hname => convert_insert_of_unknown hr hname text,
    fun row name text hblank htext => convertsAlike_of_sameCells hr fun c _ => ?_⟩
  rw [Scope.SameAt, Scope.BlankAt, Scope.BlankAt, Scope.get?_insert]
  split
  · next heq =>
    refine .inr ⟨heq ▸ hblank, ?_⟩
    rintro _ ⟨⟩
    exact htext
  · exact .inl rfl

/-- Rows of a date that must be there. -/
def dayRows : Schema SlotRecord :=
  ⟨"Row", none,
    [⟨"day", .scalar .date, none, some (SlotRecord.setter "day" .date), none, none, {}⟩],
    [.constant "make" .empty], rfl⟩

/-- A row with a blank date and a column of no attribute. -/
def notedRow : Scope String :=
  .ofList [("day", " "), ("note", "x")]

/-- A date that is missing, and one of blanks beside a note: both are refused, and each refusal
quotes its own blank. -/
theorem convert_sees_cells_day :
    ∃ r, Reader.make dayRows .builtin {} = .ok r ∧
      (∀ c ∈ r.columns, c.plan.usesExpression = false) ∧
      r.SameCells .empty notedRow ∧ r.ConvertsAlike .empty notedRow ∧
      r.convert .empty =
        .error (.conversion "day" "Date" "" "expected NaiveDate, got null") ∧
      r.convert notedRow =
        .error (.conversion "day" "Date" " " "expected NaiveDate, got null") := by
  have hsame : Scope.SameAt .empty notedRow "day" := .inr ⟨nofun, by rintro _ ⟨⟩; rfl⟩
  have hplain : ∀ {column : ReadColumn SlotRecord}, column.plan.usesExpression = false →
      ∀ c ∈ [column], c.plan.usesExpression = false := fun h => List.forall_mem_singleton.2 h
  refine ⟨_, rfl, hplain rfl, List.forall_mem_singleton.2 hsame, ?_, rfl, rfl⟩
  exact (convert_sees_cells (hplain rfl)).1 _ _ (List.forall_mem_singleton.2 hsame)

end Names

end Reader

end RecordSheet
