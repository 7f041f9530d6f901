import Mathlib.Data.List.TakeWhile
import RecordSheet.Proofs.Sheet.Memory
import RecordSheet.Proofs.Workbook.Finishing

/-!
# Proofs/Workbook/Calls — what a call does to a workbook sink

A sink is used by four calls: a worksheet is begun, a header or a row is written, the workbook is
closed, and saving it ends in one way or another.  `Effect` says what each of them can do, with one
case for each way it ends, and `effect_run` that nothing else happens.  A call that writes takes all
texts of its line or, when one of them is too long, those before it (`WorkbookSink.cut`); a line
that is refused for any other reason touches nothing.
-/

namespace RecordSheet

open Outcome

/-- What is wrong with a call, and not with the workbook, its file or the program. -/
def SinkFault.OfCall : SinkFault → Prop
  | .overflow | .file _ => False
  | _ => True

namespace WorkbookSink

/-! ## Calls -/

/-- A call to a workbook sink. -/
inductive Call where
  | begin (name : String)
  | header (headers : List String)
  | row (cells : List Cell)
  | close (fault : Option SaveFault)
deriving DecidableEq, Repr

namespace Call

/-- Runs a call. -/
def run : Call → Step Unit
  | .begin name => discard (beginSheet name)
  | .header headers => putHeader headers
  | .row cells => putRow cells
  | .close fault => WorkbookSink.close fault

/-- Whether a call writes a line of texts to the open worksheet. -/
def Writes : Call → Prop
  | .header _ | .row _ => True
  | _ => False

/-- The texts of the line. -/
def texts : Call → List String
  | .header headers => headers
  | .row cells => cells.map fun c => c.text.getD ""
  | _ => []

/-- The texts of the line before the first that is too long. -/
def fitting (c : Call) : List String :=
  c.texts.takeWhile Workbook.fits

/-- The row of a worksheet that the line goes to. -/
def line (o : OpenSheet) : Call → Nat
  | .row _ => o.report.rows + 1
  | _ => 0

/-- Whether the line is bold. -/
def bold (p : SinkOptions) : Call → Bool
  | .header _ => p.boldHeader
  | _ => false

/-- Whether the line stays in view. -/
def freezes (p : SinkOptions) : Call → Bool
  | .header _ => p.freezeHeader
  | _ => false

end Call

end WorkbookSink

/-! ## The open worksheet -/

namespace OpenSheet

open WorkbookSink

/-- A worksheet takes one line of distinct headers, and then lines of cells under them. -/
def Takes (o : OpenSheet) : Call → Prop
  | .header headers => o.hasHeader = false ∧ headers.length ≤ maxColumns ∧ headers.Nodup
  | .row cells =>
    o.hasHeader = true ∧ cells.map Cell.header = o.headers ∧ o.report.rows + 1 < maxRows
  | _ => False

/-- The open worksheet when some texts of a line were written. -/
def spoiled (o : OpenSheet) (p : AutofitPolicy) (texts : List String) : Call → OpenSheet
  | .row _ => { o with widths := if p.measures o.measured then widen o.widths texts else o.widths }
  | _ => o

/-- The open worksheet when a line was written. -/
def after (o : OpenSheet) (p : AutofitPolicy) : Call → OpenSheet
  | .header headers =>
    { o with
      headers := headers
      widths := headers.map TextWidth.measure
      report := { o.report with columns := headers.length }
      hasHeader := true }
  | .row cells =>
    { o.spoiled p (Call.row cells).texts (.row cells) with
      measured := if p.measures o.measured then o.measured + 1 else o.measured
      report := { o.report with rows := o.report.rows + 1 } }
  | _ => o

section

variable {o : OpenSheet} {p : AutofitPolicy} {texts : List String} {c : Call}

@[simp] theorem position_spoiled : (o.spoiled p texts c).position = o.position := by
  cases c <;> rfl

@[simp] theorem report_spoiled : (o.spoiled p texts c).report = o.report := by
  cases c <;> rfl

@[simp] theorem measured_spoiled : (o.spoiled p texts c).measured = o.measured := by
  cases c <;> rfl

@[simp] theorem hasHeader_spoiled : (o.spoiled p texts c).hasHeader = o.hasHeader := by
  cases c <;> rfl

@[simp] theorem position_after : (o.after p c).position = o.position := by
  cases c <;> rfl

@[simp] theorem name_after : (o.after p c).report.name = o.report.name := by
  cases c <;> rfl

end

end OpenSheet

namespace WorkbookSink

variable {s t : WorkbookSink} {o : OpenSheet} {c : Call}

/-! ## States -/

/-- The name of a worksheet, made of a text, and the names taken with it. -/
def named (s : WorkbookSink) (name : String) : String × Scope Unit :=
  SheetName.unique s.taken (SheetName.clean s.options.replacement name)

/-- The sink after a name was refused: the worksheet stays. -/
def stray (s : WorkbookSink) (name : String) : WorkbookSink :=
  { s.finish with book := s.finish.book.add, taken := (s.finish.named name).2 }

/-- The sink after a worksheet was begun. -/
def begun (s : WorkbookSink) (name : String) : WorkbookSink :=
  let final := (s.finish.named name).1
  { s.stray name with
    book := (s.stray name).book.update s.finish.book.worksheets.length fun w =>
      { w with name := final }
    opened := s.finish.opened + 1
    sheet := some
      { position := s.finish.opened
        report :=
          { name := final, warnings := if final = name then [] else [renameWarning name final] } } }

/-- The workbook with texts in the line of a call. -/
def fill (s : WorkbookSink) (o : OpenSheet) (c : Call) (texts : List String) : Workbook :=
  s.book.update o.position (·.writeRow (c.line o) 0 (c.bold s.options) texts)

/-- The sink after the texts that fit were written. -/
def cut (s : WorkbookSink) (o : OpenSheet) (c : Call) : WorkbookSink :=
  { s with
    book := s.fill o c c.fitting
    sheet := some (o.spoiled s.options.autofit c.fitting c) }

/-- The sink after a line was written. -/
def wrote (s : WorkbookSink) (o : OpenSheet) (c : Call) : WorkbookSink :=
  { s with
    book :=
      if c.freezes s.options then
        (s.fill o c c.texts).update o.position fun w => { w with frozen := true }
      else s.fill o c c.texts
    sheet := some (o.after s.options.autofit c) }

theorem closed_begun (s : WorkbookSink) (name : String) : (s.begun name).closed = s.closed :=
  s.closed_finish

theorem options_begun (s : WorkbookSink) (name : String) : (s.begun name).options = s.options :=
  s.options_finish

/-! ## Effects -/

/-- **What a call does:** how it ends, and the sink that it leaves. -/
inductive Effect (c : Call) : WorkbookSink → EStateM.Result SinkFault WorkbookSink Unit → Prop where
  /-- The call is refused. -/
  | refused {s : WorkbookSink} {f : SinkFault} (hf : f.OfCall) : Effect c s (.error f s)
  /-- Something stops the open worksheet from being finished. -/
  | lost {s t : WorkbookSink} {f : SinkFault} (hs : s.closed = false) (hc : ¬ c.Writes)
    (hr : finishSheet s = .error f t) : Effect c s (.error f t)
  /-- The name of a worksheet is refused. -/
  | stray {s : WorkbookSink} {name : String} {f : SheetName.Fault} (hs : s.closed = false)
    (hname : c = .begin name ∨ c.Writes ∧ s.sheet = none ∧ name = s.options.defaultSheet)
    (hf : SheetName.check (s.finish.named name).1 = .error f) :
    Effect c s (.error (.file (.sheetName f)) (s.stray name))
  /-- A worksheet is begun. -/
  | begun {s : WorkbookSink} {name : String} (hs : s.closed = false) (hname : c = .begin name)
    (hf : SheetName.check (s.finish.named name).1 = .ok ()) : Effect c s (.ok () (s.begun name))
  /-- An ordinary worksheet is begun for the line. -/
  | within {s : WorkbookSink} {r : EStateM.Result SinkFault WorkbookSink Unit}
    (hs : s.closed = false) (hw : c.Writes) (ho : s.sheet = none)
    (hf : SheetName.check (s.finish.named s.options.defaultSheet).1 = .ok ())
    (hr : Effect c (s.begun s.options.defaultSheet) r) : Effect c s r
  /-- The line is written. -/
  | wrote {s : WorkbookSink} {o : OpenSheet} (hs : s.closed = false) (ho : s.sheet = some o)
    (ht : o.Takes c) (hfit : ∀ t ∈ c.texts, Workbook.fits t) : Effect c s (.ok () (s.wrote o c))
  /-- The line is written as far as its texts fit. -/
  | cut {s : WorkbookSink} {o : OpenSheet} (hs : s.closed = false) (ho : s.sheet = some o)
    (ht : o.Takes c) (hfit : ¬ ∀ t ∈ c.texts, Workbook.fits t) :
    Effect c s (.error (.file .textTooLong) (s.cut o c))
  /-- The workbook is saved already. -/
  | idle {s : WorkbookSink} {fault : Option SaveFault} (hs : s.closed = true)
    (hc : c = .close fault) : Effect c s (.ok () s)
  /-- The workbook is not saved. -/
  | unsaved {s : WorkbookSink} {f : SaveFault} (hs : s.closed = false) (hc : c = .close (some f)) :
    Effect c s (.error (.file (.unsaved f)) s.finish)
  /-- The workbook is saved. -/
  | saved {s : WorkbookSink} (hs : s.closed = false) (hc : c = .close none) :
    Effect c s (.ok () { s.finish with closed := true })

/-! ## Worksheets -/

theorem beginSheet_of_closed (h : s.closed = true) (name : String) :
    beginSheet name s = .error .closed s := by
  simp only [beginSheet, run_get_bind, h, if_true, run_throw_bind]

theorem beginSheet_of_error (h : s.closed = false) {f : SinkFault}
    (hr : finishSheet s = .error f t) (name : String) : beginSheet name s = .error f t := by
  simp only [beginSheet, run_get_bind, h, Bool.false_eq_true, if_false]
  exact run_bind_of_error hr _

theorem beginSheet_of_check_error (h : s.closed = false) (hr : finishSheet s = .ok () s.finish)
    {name : String} {f : SheetName.Fault}
    (hf : SheetName.check (s.finish.named name).1 = .error f) :
    beginSheet name s = .error (.file (.sheetName f)) (s.stray name) := by
  rw [named] at hf
  simp only [beginSheet, run_get_bind, h, Bool.false_eq_true, if_false]
  rw [run_bind_of_ok hr]
  simp only [run_get_bind, run_set_bind, hf]
  rfl

theorem beginSheet_of_check_ok (h : s.closed = false) (hr : finishSheet s = .ok () s.finish)
    {name : String} (hf : SheetName.check (s.finish.named name).1 = .ok ()) :
    beginSheet name s = .ok (s.finish.named name).1 (s.begun name) := by
  rw [named] at hf
  simp only [beginSheet, run_get_bind, h, Bool.false_eq_true, if_false]
  rw [run_bind_of_ok hr]
  simp only [run_get_bind, run_set_bind, hf]
  rfl

/-- Where the workbook is open and its worksheet can be finished, the name decides whether another
one is begun. -/
theorem beginSheet_cases_of_finish (h : s.closed = false)
    (hr : finishSheet s = .ok () s.finish) (name : String) :
    (∃ f, SheetName.check (s.finish.named name).1 = .error f ∧
        beginSheet name s = .error (.file (.sheetName f)) (s.stray name)) ∨
      SheetName.check (s.finish.named name).1 = .ok () ∧
        beginSheet name s = .ok (s.finish.named name).1 (s.begun name) := by
  cases hf : SheetName.check (s.finish.named name).1 with
  | error f => exact .inl ⟨f, rfl, beginSheet_of_check_error h hr hf⟩
  | ok _ => exact .inr ⟨rfl, beginSheet_of_check_ok h hr hf⟩

/-- Where the workbook is open, beginning a worksheet ends in one of three ways. -/
theorem beginSheet_cases (h : s.closed = false) (name : String) :
    (∃ f t, finishSheet s = .error f t ∧ beginSheet name s = .error f t) ∨
      (∃ f, SheetName.check (s.finish.named name).1 = .error f ∧
        beginSheet name s = .error (.file (.sheetName f)) (s.stray name)) ∨
      SheetName.check (s.finish.named name).1 = .ok () ∧
        beginSheet name s = .ok (s.finish.named name).1 (s.begun name) := by
  cases hr : finishSheet s with
  | error f t => exact .inl ⟨f, t, rfl, beginSheet_of_error h hr name⟩
  | ok _ t =>
    obtain rfl := eq_finish_of_ok hr
    exact .inr (beginSheet_cases_of_finish h hr name)

theorem beginSheet_eq_ok {name final : String} (h : beginSheet name s = .ok final t) :
    final = (s.finish.named name).1 ∧ t = s.begun name := by
  cases hs : s.closed with
  | true => exact nomatch h.symm.trans (beginSheet_of_closed hs name)
  | false =>
    obtain ⟨_, _, -, hbegin⟩ | ⟨_, -, hbegin⟩ | ⟨-, hbegin⟩ := beginSheet_cases hs name
    · exact nomatch h.symm.trans hbegin
    · exact nomatch h.symm.trans hbegin
    · obtain ⟨rfl, rfl⟩ := EStateM.Result.ok.inj (h.symm.trans hbegin)
      exact ⟨rfl, rfl⟩

theorem effect_begin (s : WorkbookSink) (name : String) :
    Effect (.begin name) s ((Call.begin name).run s) := by
  rw [Call.run]
  cases h : s.closed with
  | true =>
    rw [run_discard_of_error (beginSheet_of_closed h name)]
    exact .refused trivial
  | false =>
    obtain ⟨f, t, hr, hbegin⟩ | ⟨f, hf, hbegin⟩ | ⟨hf, hbegin⟩ := beginSheet_cases h name
    · rw [run_discard_of_error hbegin]
      exact .lost h id hr
    · rw [run_discard_of_error hbegin]
      exact .stray h (.inl rfl) hf
    · rw [run_discard_of_ok hbegin]
      exact .begun h rfl hf

theorem openSheet_of_some (h : s.sheet = some o) : openSheet s = .ok o s := by
  simp only [openSheet, run_get_bind, h]
  rfl

theorem openSheet_of_check_error (hs : s.closed = false) (h : s.sheet = none) {f : SheetName.Fault}
    (hf : SheetName.check (s.finish.named s.options.defaultSheet).1 = .error f) :
    openSheet s = .error (.file (.sheetName f)) (s.stray s.options.defaultSheet) := by
  simp only [openSheet, run_get_bind, h]
  exact run_bind_of_error (run_discard_of_error
    (beginSheet_of_check_error hs (finishSheet_of_ready (ready_of_none h)) hf)) _

/-- An ordinary worksheet is begun, and it is the open one. -/
theorem openSheet_of_check_ok (hs : s.closed = false) (h : s.sheet = none)
    (hf : SheetName.check (s.finish.named s.options.defaultSheet).1 = .ok ()) :
    openSheet s = openSheet (s.begun s.options.defaultSheet) := by
  conv_lhs => simp only [openSheet, run_get_bind, h]
  rw [run_bind_of_ok (run_discard_of_ok
    (beginSheet_of_check_ok hs (finishSheet_of_ready (ready_of_none h)) hf))]
  rfl

/-! ## Lines -/

theorem Call.fitting_le (c : Call) : c.fitting <+: c.texts :=
  List.takeWhile_prefix _

theorem fitting_eq_texts_iff : c.fitting = c.texts ↔ ∀ t ∈ c.texts, Workbook.fits t :=
  List.takeWhile_eq_self_iff

theorem length_fitting_lt_iff :
    c.fitting.length < c.texts.length ↔ ¬ ∀ t ∈ c.texts, Workbook.fits t := by
  have hle := c.fitting_le
  rw [← fitting_eq_texts_iff, Nat.lt_iff_le_and_ne, and_iff_right hle.length_le, not_iff_not]
  exact ⟨hle.eq_of_length, congrArg _⟩

theorem checkOrder_eq_ok_iff {column : Nat} {cells : List Cell} {headers : List String}
    (h : cells.length = headers.length) :
    checkOrder column cells headers = .ok () ↔ cells.map Cell.header = headers := by
  induction cells generalizing column headers with
  | nil => simp [checkOrder, List.eq_nil_of_length_eq_zero h.symm]
  | cons c cells ih =>
    obtain ⟨header, headers, rfl⟩ := List.exists_cons_of_length_eq_add_one h.symm
    rw [checkOrder, List.map_cons, List.cons.injEq]
    split
    · next hc => rw [ih (Nat.succ.inj h), and_iff_right hc]
    · next hc => simp [hc]

theorem failsOnly_checkOrder (column : Nat) (cells : List Cell) (headers : List String) :
    FailsOnly SinkFault.OfCall (checkOrder column cells headers) := by
  induction cells generalizing column headers with
  | nil => exact failsOnly_ok ()
  | cons c cells ih =>
    cases headers with
    | nil => exact failsOnly_ok ()
    | cons header headers =>
      rw [checkOrder]
      split
      · exact ih _ _
      · exact failsOnly_error trivial

theorem take_length_takeWhile (texts : List String) :
    texts.take (texts.takeWhile Workbook.fits).length = texts.takeWhile Workbook.fits :=
  (List.prefix_iff_eq_take.1 (List.takeWhile_prefix _)).symm

theorem putTexts_eq (row : Nat) (bold : Bool) (texts : List String) :
    putTexts o row bold texts s =
      .ok (texts.takeWhile Workbook.fits).length
        { s with
          book := s.book.update o.position
            (·.writeRow row 0 bold (texts.takeWhile Workbook.fits)) } :=
  rfl

/-! ### Rows -/

section Rows

variable {cells : List Cell}

theorem putRow_of_closed (hs : s.closed = true) : putRow cells s = .error .closed s := by
  simp only [putRow, run_get_bind, hs, ↓reduceIte, run_throw_bind]

/-- A worksheet without a header takes no row. -/
theorem putRow_of_no_header (hs : s.closed = false) (ho : s.sheet = some o)
    (hheader : o.hasHeader = false) :
    putRow cells s = .error (.rowBeforeHeader o.report.name) s := by
  simp only [putRow, run_get_bind, hs, Bool.false_eq_true, ↓reduceIte,
    run_bind_of_ok (openSheet_of_some ho), hheader, Bool.not_false, run_throw_bind]

/-- A row that the open worksheet does not take is refused before any of its texts is written. -/
theorem putRow_of_not_takes (hs : s.closed = false) (ho : s.sheet = some o)
    (ht : ¬ o.Takes (.row cells)) : ∃ f, f.OfCall ∧ putRow cells s = .error f s := by
  have hopen := openSheet_of_some ho
  cases hheader : o.hasHeader with
  | false => exact ⟨.rowBeforeHeader o.report.name, trivial, putRow_of_no_header hs ho hheader⟩
  | true =>
    by_cases hlength : cells.length = o.headers.length
    swap
    · refine ⟨.cellCount cells.length o.headers.length, trivial, ?_⟩
      simp only [putRow, run_get_bind, hs, Bool.false_eq_true, ↓reduceIte, run_bind_of_ok hopen,
        hheader, Bool.not_true, ne_eq, hlength, not_false_eq_true, run_throw_bind]
    by_cases hrows : maxRows ≤ o.report.rows + 1
    · refine ⟨.full o.report.name, trivial, ?_⟩
      simp only [putRow, run_get_bind, hs, Bool.false_eq_true, ↓reduceIte, run_bind_of_ok hopen,
        hheader, Bool.not_true, ne_eq, hlength, not_true_eq_false, hrows, run_throw_bind]
    cases horder : checkOrder 0 cells o.headers with
    | error f =>
      refine ⟨f, failsOnly_checkOrder _ _ _ f horder, ?_⟩
      simp only [putRow, run_get_bind, hs, Bool.false_eq_true, ↓reduceIte, run_bind_of_ok hopen,
        hheader, Bool.not_true, ne_eq, hlength, not_true_eq_false, hrows, horder, run_throw_bind]
    | ok _ =>
      exact absurd ⟨hheader, (checkOrder_eq_ok_iff hlength).1 horder, Nat.not_le.1 hrows⟩ ht

/-- A row that the open worksheet takes is written as far as its texts fit. -/
theorem putRow_of_takes (hs : s.closed = false) (ho : s.sheet = some o)
    (ht : o.Takes (.row cells)) :
    putRow cells s =
      if (Call.row cells).fitting.length < (Call.row cells).texts.length then
        .error (.file .textTooLong) (s.cut o (.row cells))
      else .ok () (s.wrote o (.row cells)) := by
  have hopen := openSheet_of_some ho
  obtain ⟨hheader, hcells, hrows⟩ := ht
  have hlength : cells.length = o.headers.length := by rw [← hcells, List.length_map]
  have horder : checkOrder 0 cells o.headers = .ok () := (checkOrder_eq_ok_iff hlength).2 hcells
  simp only [putRow, run_get_bind, hs, Bool.false_eq_true, ↓reduceIte, run_bind_of_ok hopen,
    hheader, Bool.not_true, ne_eq, hlength, not_true_eq_false, Nat.not_le.2 hrows, horder]
  rw [run_bind_of_ok (putTexts_eq ..), run_modify_bind, take_length_takeWhile]
  change (if (Call.row cells).fitting.length < (Call.row cells).texts.length then _ else _ :
    Step Unit) _ = _
  split
  · simp only [run_throw_bind, cut, OpenSheet.spoiled, hheader]
    rfl
  · next hlt =>
    have hfit : (Call.row cells).fitting = (Call.row cells).texts :=
      (Call.row cells).fitting_le.eq_of_length_le (Nat.not_lt.1 hlt)
    simp only [wrote, OpenSheet.after, OpenSheet.spoiled, hheader, ← hfit]
    rfl

/-- Without an open worksheet a row fails with the name of an ordinary one, or goes there. -/
theorem putRow_of_none (hs : s.closed = false) (ho : s.sheet = none) :
    (∀ f, SheetName.check (s.finish.named s.options.defaultSheet).1 = .error f →
      putRow cells s = .error (.file (.sheetName f)) (s.stray s.options.defaultSheet)) ∧
      (SheetName.check (s.finish.named s.options.defaultSheet).1 = .ok () →
        putRow cells s = putRow cells (s.begun s.options.defaultSheet)) := by
  refine ⟨fun f hf => ?_, fun hf => ?_⟩
  · simp only [putRow, run_get_bind, hs, Bool.false_eq_true, ↓reduceIte]
    exact run_bind_of_error (openSheet_of_check_error hs ho hf) _
  · have hbegun : (s.begun s.options.defaultSheet).closed = false := by rw [closed_begun, hs]
    simp only [putRow, run_get_bind, hs, hbegun, Bool.false_eq_true, ↓reduceIte, options_begun]
    exact run_bind_congr (openSheet_of_check_ok hs ho hf) _

end Rows

/-! ### Headers -/

section Headers

variable {headers : List String}

theorem putHeader_of_closed (hs : s.closed = true) : putHeader headers s = .error .closed s := by
  simp only [putHeader, run_get_bind, hs, ↓reduceIte, run_throw_bind]

/-- Headers that no worksheet takes are refused before one is opened. -/
theorem putHeader_of_unfit (hs : s.closed = false)
    (h : ¬ (headers.length ≤ maxColumns ∧ headers.Nodup)) :
    ∃ f, f.OfCall ∧ putHeader headers s = .error f s := by
  by_cases hlength : maxColumns < headers.length
  · refine ⟨.tooManyColumns headers.length, trivial, ?_⟩
    simp only [putHeader, run_get_bind, hs, Bool.false_eq_true, hlength, ↓reduceIte, run_throw_bind]
  cases hcheck : checkHeaders headers with
  | error f =>
    refine ⟨.sharedColumns f, trivial, ?_⟩
    simp only [putHeader, run_get_bind, hs, Bool.false_eq_true, hlength, ↓reduceIte, hcheck,
      run_throw_bind]
  | ok _ => exact absurd ⟨Nat.not_lt.1 hlength, checkHeaders_eq_ok_iff.1 hcheck⟩ h

/-- Headers that the open worksheet does not take are refused before any of them is written. -/
theorem putHeader_of_not_takes (hs : s.closed = false) (ho : s.sheet = some o)
    (ht : ¬ o.Takes (.header headers)) : ∃ f, f.OfCall ∧ putHeader headers s = .error f s := by
  by_cases hfit : headers.length ≤ maxColumns ∧ headers.Nodup
  · have hheader : o.hasHeader = true := by
      rw [← Bool.not_eq_false]
      exact fun hheader => ht ⟨hheader, hfit⟩
    refine ⟨.secondHeader o.report.name, trivial, ?_⟩
    simp only [putHeader, run_get_bind, hs, Bool.false_eq_true, ↓reduceIte, Nat.not_lt.2 hfit.1,
      checkHeaders_eq_ok_iff.2 hfit.2, run_bind_of_ok (openSheet_of_some ho), hheader,
      run_throw_bind]
  · exact putHeader_of_unfit hs hfit

/-- Headers that the open worksheet takes are written as far as they fit. -/
theorem putHeader_of_takes (hs : s.closed = false) (ho : s.sheet = some o)
    (ht : o.Takes (.header headers)) :
    putHeader headers s =
      if (Call.header headers).fitting.length < (Call.header headers).texts.length then
        .error (.file .textTooLong) (s.cut o (.header headers))
      else .ok () (s.wrote o (.header headers)) := by
  obtain ⟨hheader, hlength, hdistinct⟩ := ht
  simp only [putHeader, run_get_bind, hs, Bool.false_eq_true, ↓reduceIte, Nat.not_lt.2 hlength,
    checkHeaders_eq_ok_iff.2 hdistinct, run_bind_of_ok (openSheet_of_some ho), hheader]
  rw [run_bind_of_ok (putTexts_eq ..)]
  change (if (Call.header headers).fitting.length < (Call.header headers).texts.length then _
    else _ : Step Unit) _ = _
  split
  · simp only [run_throw_bind, cut, OpenSheet.spoiled, ← ho]
    rfl
  · next hlt =>
    have hfit : (Call.header headers).fitting = (Call.header headers).texts :=
      (Call.header headers).fitting_le.eq_of_length_le (Nat.not_lt.1 hlt)
    simp only [wrote, OpenSheet.after, ← hfit]
    rfl

/-- Without an open worksheet headers fail with the name of an ordinary one, or go there. -/
theorem putHeader_of_none (hs : s.closed = false) (ho : s.sheet = none)
    (hlength : headers.length ≤ maxColumns) (hdistinct : headers.Nodup) :
    (∀ f, SheetName.check (s.finish.named s.options.defaultSheet).1 = .error f →
      putHeader headers s = .error (.file (.sheetName f)) (s.stray s.options.defaultSheet)) ∧
      (SheetName.check (s.finish.named s.options.defaultSheet).1 = .ok () →
        putHeader headers s = putHeader headers (s.begun s.options.defaultSheet)) := by
  have hcheck := checkHeaders_eq_ok_iff.2 hdistinct
  refine ⟨fun f hf => ?_, fun hf => ?_⟩
  · simp only [putHeader, run_get_bind, hs, Bool.false_eq_true, ↓reduceIte, Nat.not_lt.2 hlength,
      hcheck]
    exact run_bind_of_error (openSheet_of_check_error hs ho hf) _
  · have hbegun : (s.begun s.options.defaultSheet).closed = false := by rw [closed_begun, hs]
    simp only [putHeader, run_get_bind, hs, hbegun, Bool.false_eq_true, ↓reduceIte,
      Nat.not_lt.2 hlength, hcheck]
    exact run_bind_congr (openSheet_of_check_ok hs ho hf) _

end Headers

/-! ## Every call has its effect -/

/-- A line that the open worksheet takes is written as far as its texts fit. -/
theorem run_of_takes (hs : s.closed = false) (ho : s.sheet = some o) (ht : o.Takes c) :
    c.run s = if c.fitting.length < c.texts.length then .error (.file .textTooLong) (s.cut o c)
      else .ok () (s.wrote o c) := by
  cases c with
  | header headers => exact putHeader_of_takes hs ho ht
  | row cells => exact putRow_of_takes hs ho ht
  | begin _ | close _ => exact ht.elim

theorem run_of_fits (hs : s.closed = false) (ho : s.sheet = some o) (ht : o.Takes c)
    (hfit : ∀ t ∈ c.texts, Workbook.fits t) : c.run s = .ok () (s.wrote o c) := by
  rw [run_of_takes hs ho ht, if_neg fun hlt => length_fitting_lt_iff.1 hlt hfit]

theorem run_of_not_fits (hs : s.closed = false) (ho : s.sheet = some o) (ht : o.Takes c)
    (hfit : ¬ ∀ t ∈ c.texts, Workbook.fits t) :
    c.run s = .error (.file .textTooLong) (s.cut o c) := by
  rw [run_of_takes hs ho ht, if_pos (length_fitting_lt_iff.2 hfit)]

/-- A line for the open worksheet is refused by it, or written as far as its texts fit. -/
theorem effect_of_some (hs : s.closed = false) (ho : s.sheet = some o)
    (hrefused : ¬ o.Takes c → ∃ f, f.OfCall ∧ c.run s = .error f s) : Effect c s (c.run s) := by
  by_cases ht : o.Takes c
  · by_cases hfit : ∀ t ∈ c.texts, Workbook.fits t
    · rw [run_of_fits hs ho ht hfit]
      exact .wrote hs ho ht hfit
    · rw [run_of_not_fits hs ho ht hfit]
      exact .cut hs ho ht hfit
  · obtain ⟨f, hf, hrun⟩ := hrefused ht
    rw [hrun]
    exact .refused hf

/-- A line without an open worksheet goes to an ordinary one, unless its name is refused. -/
theorem effect_of_none (hs : s.closed = false) (hw : c.Writes) (ho : s.sheet = none)
    (hrun : (∀ f, SheetName.check (s.finish.named s.options.defaultSheet).1 = .error f →
      c.run s = .error (.file (.sheetName f)) (s.stray s.options.defaultSheet)) ∧
      (SheetName.check (s.finish.named s.options.defaultSheet).1 = .ok () →
        c.run s = c.run (s.begun s.options.defaultSheet)))
    (hr : Effect c (s.begun s.options.defaultSheet) (c.run (s.begun s.options.defaultSheet))) :
    Effect c s (c.run s) := by
  cases hf : SheetName.check (s.finish.named s.options.defaultSheet).1 with
  | error f =>
    rw [hrun.1 f hf]
    exact .stray hs (.inr ⟨hw, ho, rfl⟩) hf
  | ok _ =>
    rw [hrun.2 hf]
    exact .within hs hw ho hf hr

theorem effect_row (s : WorkbookSink) (cells : List Cell) :
    Effect (.row cells) s ((Call.row cells).run s) := by
  have hsome : ∀ {s o}, s.closed = false → s.sheet = some o →
      Effect (.row cells) s ((Call.row cells).run s) := fun hs ho =>
    effect_of_some hs ho (putRow_of_not_takes hs ho)
  cases hs : s.closed with
  | true =>
    rw [Call.run, putRow_of_closed hs]
    exact .refused trivial
  | false =>
    cases ho : s.sheet with
    | some o => exact hsome hs ho
    | none =>
      exact effect_of_none hs trivial ho (putRow_of_none hs ho) (hsome (s.closed_begun _ ▸ hs) rfl)

theorem effect_header (s : WorkbookSink) (headers : List String) :
    Effect (.header headers) s ((Call.header headers).run s) := by
  have hsome : ∀ {s o}, s.closed = false → s.sheet = some o →
      Effect (.header headers) s ((Call.header headers).run s) := fun hs ho =>
    effect_of_some hs ho (putHeader_of_not_takes hs ho)
  cases hs : s.closed with
  | true =>
    rw [Call.run, putHeader_of_closed hs]
    exact .refused trivial
  | false =>
    by_cases hfit : headers.length ≤ maxColumns ∧ headers.Nodup
    · cases ho : s.sheet with
      | some o => exact hsome hs ho
      | none =>
        exact effect_of_none hs trivial ho (putHeader_of_none hs ho hfit.1 hfit.2)
          (hsome (s.closed_begun _ ▸ hs) rfl)
    · obtain ⟨f, hf, hrun⟩ := putHeader_of_unfit hs hfit
      rw [Call.run, hrun]
      exact .refused hf

theorem close_of_closed (hs : s.closed = true) (fault : Option SaveFault) :
    WorkbookSink.close fault s = .ok () s := by
  simp only [WorkbookSink.close, run_get_bind, hs, Bool.not_true, Bool.false_eq_true, ↓reduceIte]
  rfl

theorem close_of_error (hs : s.closed = false) {f : SinkFault} (hr : finishSheet s = .error f t)
    (fault : Option SaveFault) : WorkbookSink.close fault s = .error f t := by
  simp only [WorkbookSink.close, run_get_bind, hs, Bool.not_false, ↓reduceIte]
  exact run_bind_of_error hr _

theorem close_of_fault (hs : s.closed = false) (hr : finishSheet s = .ok () s.finish)
    (f : SaveFault) : WorkbookSink.close (some f) s = .error (.file (.unsaved f)) s.finish := by
  simp only [WorkbookSink.close, run_get_bind, hs, Bool.not_false, ↓reduceIte]
  exact run_bind_of_ok hr _

theorem close_of_none (hs : s.closed = false) (hr : finishSheet s = .ok () s.finish) :
    WorkbookSink.close none s = .ok () { s.finish with closed := true } := by
  simp only [WorkbookSink.close, run_get_bind, hs, Bool.not_false, ↓reduceIte]
  exact run_bind_of_ok hr _

theorem effect_close (s : WorkbookSink) (fault : Option SaveFault) :
    Effect (.close fault) s ((Call.close fault).run s) := by
  rw [Call.run]
  cases hs : s.closed with
  | true =>
    rw [close_of_closed hs]
    exact .idle hs rfl
  | false =>
    cases hr : finishSheet s with
    | error f t =>
      rw [close_of_error hs hr]
      exact .lost hs id hr
    | ok _ t =>
      obtain rfl := eq_finish_of_ok hr
      cases fault with
      | some f =>
        rw [close_of_fault hs hr]
        exact .unsaved hs rfl
      | none =>
        rw [close_of_none hs hr]
        exact .saved hs rfl

/-- **Every call has its effect.** -/
theorem effect_run (c : Call) (s : WorkbookSink) : Effect c s (c.run s) := by
  cases c with
  | begin name => exact effect_begin s name
  | header headers => exact effect_header s headers
  | row cells => exact effect_row s cells
  | close fault => exact effect_close s fault

/-- Only where the open worksheet is to be finished does a sum stop the program. -/
theorem Effect.of_overflow {r : EStateM.Result SinkFault WorkbookSink Unit} (h : Effect c s r)
    (hr : r = .error .overflow t) : ¬ c.Writes ∧ finishSheet s = .error .overflow t := by
  induction h with
  | refused hf =>
    obtain ⟨rfl, -⟩ := EStateM.Result.error.inj hr
    exact hf.elim
  | lost _ hc hfinish =>
    obtain ⟨rfl, rfl⟩ := EStateM.Result.error.inj hr
    exact ⟨hc, hfinish⟩
  | within _ hw _ _ _ ih => exact absurd hw (ih hr).1
  | stray | begun | wrote | cut | idle | unsaved | saved => cases hr

/-- A line for the open worksheet is refused, written, or cut. -/
theorem Effect.line_cases {r : EStateM.Result SinkFault WorkbookSink Unit} (h : Effect c s r)
    (hw : c.Writes) (ho : s.sheet = some o) :
    (∃ f, r = .error f s) ∨
      o.Takes c ∧ r = .ok () (s.wrote o c) ∨
      o.Takes c ∧ (¬ ∀ t ∈ c.texts, Workbook.fits t) ∧
        r = .error (.file .textTooLong) (s.cut o c) := by
  cases h with
  | refused hf => exact .inl ⟨_, rfl⟩
  | lost hs hc hr => exact absurd hw hc
  | stray hs hname hf =>
    obtain rfl | ⟨-, hnone, -⟩ := hname
    · exact hw.elim
    · exact nomatch ho.symm.trans hnone
  | within hs hw hnone hf hr => exact nomatch ho.symm.trans hnone
  | wrote hs ho' ht hfit =>
    obtain rfl := Option.some.inj (ho.symm.trans ho')
    exact .inr (.inl ⟨ht, rfl⟩)
  | cut hs ho' ht hfit =>
    obtain rfl := Option.some.inj (ho.symm.trans ho')
    exact .inr (.inr ⟨ht, hfit, rfl⟩)
  | begun hs hc | idle hs hc | unsaved hs hc | saved hs hc =>
    obtain rfl := hc
    exact hw.elim

/-- A line without an open worksheet is refused, or goes to an ordinary one that is begun for it,
unless its name is refused. -/
theorem Effect.line_cases_of_none {r : EStateM.Result SinkFault WorkbookSink Unit}
    (h : Effect c s r)
    (hw : c.Writes) (ho : s.sheet = none) :
    (∃ f, r = .error f s) ∨
      (∃ f, r = .error (.file (.sheetName f)) (s.stray s.options.defaultSheet)) ∨
      Effect c (s.begun s.options.defaultSheet) r := by
  cases h with
  | refused hf => exact .inl ⟨_, rfl⟩
  | lost hs hc hr => exact absurd hw hc
  | stray hs hname hf =>
    obtain rfl | ⟨-, -, rfl⟩ := hname
    · exact hw.elim
    · exact .inr (.inl ⟨_, rfl⟩)
  | within hs hw ho hf hr => exact .inr (.inr hr)
  | wrote hs ho' | cut hs ho' => exact nomatch ho.symm.trans ho'
  | begun hs hc | idle hs hc | unsaved hs hc | saved hs hc =>
    obtain rfl := hc
    exact hw.elim

/-- The sink after a list of calls, of which some may have been refused. -/
def runs (s : WorkbookSink) (calls : List Call) : WorkbookSink :=
  calls.foldl (fun s c => left (c.run s)) s

/-! ## What a line fills -/

section Fill

variable {texts : List String}

@[simp] theorem length_fill :
    (s.fill o c texts).worksheets.length = s.book.worksheets.length :=
  Workbook.length_update

@[simp] theorem name?_fill (p : Nat) : (s.fill o c texts).name? p = s.book.name? p :=
  Workbook.name?_update fun w => w.name_writeRow texts

/-- The cells under the texts of a line hold them. -/
theorem cell?_fill_of_inside (h : o.position < s.book.worksheets.length) {j : Nat} {text : String}
    (hj : texts[j]? = some text) :
    (s.fill o c texts).cell? o.position (c.line o) j =
      some (.ofText (c.bold s.options) text) := by
  rw [Workbook.cell?, fill, Workbook.getElem?_update_self, List.getElem?_eq_getElem h,
    Option.map_some, Option.bind_some, Worksheet.cell?_writeRow, if_pos rfl, hj]
  rfl

/-- All other cells stay. -/
theorem cell?_fill_of_outside {p i j : Nat}
    (h : p ≠ o.position ∨ i ≠ c.line o ∨ texts.length ≤ j) :
    (s.fill o c texts).cell? p i j = s.book.cell? p i j := by
  rcases h with h | h
  · exact Workbook.cell?_update_of_ne h
  · refine Workbook.cell?_update fun w => ?_
    rw [Worksheet.cell?_writeRow]
    split
    · next hi => simp [h.resolve_left (not_not.2 hi)]
    · rfl

end Fill

end WorkbookSink

end RecordSheet
