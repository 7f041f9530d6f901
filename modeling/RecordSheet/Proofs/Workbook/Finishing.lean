import Mathlib.Data.List.Infix
import RecordSheet.Proofs.Outcome
import RecordSheet.Proofs.Workbook.Grid
import RecordSheet.Workbook.Sink

/-!
# Proofs/Workbook/Finishing — a worksheet is finished, or lost

Finishing a worksheet takes it away, sets the widths of its columns one after the other, and keeps
its report last.  It stops in between where the sum of a width and the padding is greater than a
machine word, or the workbook has no such worksheet or column (`Stops`).  Where nothing stops it, it
comes to one change of the sink (`finishSheet_of_ready`); where something does, the report is lost
with the worksheet (`exists_lost_of_error`).  Either way no name and no cell changes (`Parted`).
-/

namespace RecordSheet

open Outcome

/-! ## Widths that add up -/

namespace TextWidth

variable {line : List Char}

theorem length_le_of_mem_parts {cs : List Char} (h : line ∈ parts cs) :
    line.length ≤ cs.length := by
  induction cs generalizing line with
  | nil =>
    obtain rfl := List.mem_singleton.1 h
    exact le_rfl
  | cons c cs ih =>
    rw [parts] at h
    split at h
    · obtain rfl | h := List.mem_cons.1 h
      · exact Nat.zero_le _
      · exact Nat.le_succ_of_le (ih h)
    · split at h
      · obtain rfl := List.mem_singleton.1 h
        exact Nat.succ_le_succ (Nat.zero_le _)
      · next l ls heq =>
        obtain rfl | h := List.mem_cons.1 h
        · exact Nat.succ_le_succ (ih (heq ▸ List.mem_cons_self))
        · exact Nat.le_succ_of_le (ih (heq ▸ List.mem_cons_of_mem _ h))

theorem length_dropReturn_le (line : List Char) : (dropReturn line).length ≤ line.length := by
  rw [dropReturn]
  split
  · exact List.length_dropLast.trans_le (Nat.sub_le ..)
  · exact le_rfl

theorem exists_of_mem_lines {ps : List (List Char)} (h : line ∈ lines ps) :
    ∃ part ∈ ps, line.length ≤ part.length := by
  induction ps with
  | nil => cases h
  | cons part rest ih =>
    cases rest with
    | nil => exact ⟨line, h, le_rfl⟩
    | cons next rest =>
      obtain rfl | h := List.mem_cons.1 h
      · exact ⟨part, List.mem_cons_self, length_dropReturn_le part⟩
      · obtain ⟨part', hmem, hle⟩ := ih h
        exact ⟨part', List.mem_cons_of_mem _ hmem, hle⟩

theorem ofLine_le (line : List Char) : ofLine line ≤ 2 * line.length := by
  have hfold : ∀ width, line.foldl (fun width c => width + ofChar c) width ≤
      width + 2 * line.length := by
    induction line with
    | nil => exact fun _ => le_rfl
    | cons c line ih =>
      intro width
      have hchar : ofChar c ≤ 2 := by
        rw [ofChar]
        split <;> omega
      have hrest := ih (width + ofChar c)
      rw [List.foldl_cons, List.length_cons]
      omega
  exact (hfold 0).trans_eq (Nat.zero_add _)

/-- **A text is at most twice as wide as long.** -/
theorem measure_le (s : String) : measure s ≤ 2 * s.length := by
  have hfold : ∀ {xs : List Nat} {n b : Nat}, n ≤ b → (∀ x ∈ xs, x ≤ b) → xs.foldl max n ≤ b := by
    intro xs
    induction xs with
    | nil => exact fun hn _ => hn
    | cons x xs ih =>
      intro n b hn hxs
      rw [List.forall_mem_cons] at hxs
      exact ih (max_le hn hxs.1) hxs.2
  refine hfold (Nat.zero_le _) (List.forall_mem_map.2 fun line hline => ?_)
  obtain ⟨part, hpart, hle⟩ := exists_of_mem_lines hline
  calc ofLine line
    _ ≤ 2 * line.length := ofLine_le line
    _ ≤ 2 * s.length := Nat.mul_le_mul_left 2 (hle.trans (length_le_of_mem_parts hpart))

end TextWidth

namespace AutofitPolicy

/-- If columns are fitted, the padding adds up with the width of every text that a cell can hold. -/
def AddsUp (p : AutofitPolicy) : Prop :=
  p.enabled = true → 2 * Workbook.maxTextLength + p.padding < wordCount

instance (p : AutofitPolicy) : Decidable p.AddsUp :=
  inferInstanceAs (Decidable (_ → _))

variable {p : AutofitPolicy} {width : Nat}

theorem AddsUp.lt_wordCount (h : p.AddsUp) (hp : p.enabled = true)
    (hw : width ≤ 2 * Workbook.maxTextLength) : width + p.padding < wordCount :=
  (Nat.add_le_add_right hw _).trans_lt (h hp)

theorem AddsUp.columnWidth_eq (h : p.AddsUp) (hp : p.enabled = true)
    (hw : width ≤ 2 * Workbook.maxTextLength) :
    p.columnWidth width = min (max (width + p.padding) p.minimum) p.maximum := by
  rw [columnWidth, Nat.mod_eq_of_lt (h.lt_wordCount hp hw)]

end AutofitPolicy

namespace WorkbookSink

variable {s t : WorkbookSink} {o : OpenSheet} {f : SinkFault}

/-! ## Columns get their widths -/

/-- The sink when the columns of a worksheet, from one on, got the widths for some measured ones. -/
def fitted (s : WorkbookSink) (position column : Nat) (widths : List Nat) : WorkbookSink :=
  { s with
    book := s.book.update position
      (·.setWidths column (widths.map s.options.autofit.columnWidth)) }

theorem fitted_nil (s : WorkbookSink) (position column : Nat) :
    s.fitted position column [] = s := by
  have hbook : s.book.update position (·.setWidths column []) = s.book :=
    congrArg Workbook.mk (List.modify_id ..)
  rw [fitted, List.map_nil, hbook]

theorem fitted_cons (s : WorkbookSink) (position column width : Nat) (rest : List Nat) :
    (s.fitted position column [width]).fitted position (column + 1) rest =
      s.fitted position column (width :: rest) := by
  simp only [fitted, Workbook.update, List.modify_modify_eq]
  rfl

/-- **All columns get their widths,** or those before the one that stops it. -/
theorem fitColumns_cases (s : WorkbookSink) (position column : Nat) (widths : List Nat) :
    fitColumns position column widths s = .ok () (s.fitted position column widths) ∨
      ∃ f front, fitColumns position column widths s = .error f (s.fitted position column front) ∧
        (f = .overflow ∧ s.checked = true ∧ (∃ w ∈ widths, s.options.autofit.overflows w = true) ∨
          f = .file .noColumn ∧ maxColumns < column + widths.length) := by
  induction widths generalizing s column with
  | nil =>
    rw [fitted_nil]
    exact .inl rfl
  | cons width rest ih =>
    by_cases hadd : (s.checked && s.options.autofit.overflows width) = true
    · refine .inr ⟨.overflow, [], ?_, .inl ⟨rfl, ?_⟩⟩
      · simp only [fitColumns, run_get_bind, hadd, ↓reduceIte, run_throw_bind, fitted_nil]
      · rw [Bool.and_eq_true] at hadd
        exact ⟨hadd.1, width, List.mem_cons_self, hadd.2⟩
    by_cases hcolumn : maxColumns ≤ column
    · refine .inr ⟨.file .noColumn, [], ?_, .inr ⟨rfl, ?_⟩⟩
      · simp only [fitColumns, run_get_bind, hadd, hcolumn, Bool.false_eq_true, ↓reduceIte,
          run_throw_bind, fitted_nil]
      · rw [List.length_cons]
        omega
    have hstep : fitColumns position column (width :: rest) s =
        fitColumns position (column + 1) rest (s.fitted position column [width]) := by
      simp only [fitColumns, run_get_bind, hadd, hcolumn, Bool.false_eq_true, ↓reduceIte]
      rfl
    rw [hstep]
    obtain hrest | ⟨f, front, hrest, hf⟩ := ih (s.fitted position column [width]) (column + 1)
    · rw [fitted_cons] at hrest
      exact .inl hrest
    · rw [fitted_cons] at hrest
      refine .inr ⟨f, width :: front, hrest, hf.imp ?_ ?_⟩
      · rintro ⟨rfl, hchecked, w, hw, hover⟩
        exact ⟨rfl, hchecked, w, List.mem_cons_of_mem _ hw, hover⟩
      · rintro ⟨rfl, hlt⟩
        rw [List.length_cons]
        exact ⟨rfl, by omega⟩

/-! ## The worksheet is taken away -/

/-- Why the columns of the open worksheet do not get their widths. -/
inductive Stops (s : WorkbookSink) : SinkFault → Prop where
  | overflow {o : OpenSheet} {width : Nat} (hp : s.options.autofit.enabled = true)
    (ho : s.sheet = some o) (hs : s.checked = true) (hw : width ∈ o.widths)
    (h : s.options.autofit.overflows width = true) : Stops s .overflow
  | noWorksheet {o : OpenSheet} (hp : s.options.autofit.enabled = true) (ho : s.sheet = some o)
    (h : s.book.worksheets.length ≤ o.position) : Stops s (.file (.noWorksheet o.position))
  | noColumn {o : OpenSheet} (hp : s.options.autofit.enabled = true) (ho : s.sheet = some o)
    (h : maxColumns < o.widths.length) : Stops s (.file .noColumn)

/-- Nothing stops the open worksheet from being finished. -/
def Ready (s : WorkbookSink) : Prop :=
  ∀ f, ¬ s.Stops f

/-- The sink without its open worksheet, whose first columns got their widths. -/
def lost (s : WorkbookSink) (o : OpenSheet) (widths : List Nat) : WorkbookSink :=
  { s.fitted o.position 0 widths with sheet := none }

/-- **The sink with its open worksheet finished.** -/
def finish (s : WorkbookSink) : WorkbookSink :=
  match s.sheet with
  | none => s
  | some o =>
    { s.lost o (if s.options.autofit.enabled then o.widths else []) with
      finished := s.finished ++ [o.report] }

theorem finish_of_none (h : s.sheet = none) : s.finish = s := by
  simp only [finish, h]

theorem finish_of_some (h : s.sheet = some o) :
    s.finish = { s.lost o (if s.options.autofit.enabled then o.widths else []) with
      finished := s.finished ++ [o.report] } := by
  simp only [finish, h]

/-- **A worksheet is finished,** or something stops it and its report is not kept. -/
theorem finishSheet_cases (s : WorkbookSink) :
    finishSheet s = .ok () s.finish ∨
      ∃ f o widths, s.Stops f ∧ s.sheet = some o ∧ finishSheet s = .error f (s.lost o widths) := by
  cases ho : s.sheet with
  | none =>
    refine .inl ?_
    rw [finish_of_none ho]
    simp only [finishSheet, run_get_bind, ho]
    rfl
  | some o =>
    have hlost : s.lost o [] = { s with sheet := none } := by rw [lost, fitted_nil]
    rw [finish_of_some ho]
    cases henabled : s.options.autofit.enabled with
    | false =>
      refine .inl ?_
      simp only [finishSheet, run_get_bind, ho, run_modify_bind, henabled, Bool.false_eq_true,
        ↓reduceIte, hlost]
      rfl
    | true =>
      by_cases hposition : s.book.worksheets.length ≤ o.position
      · refine .inr ⟨_, o, [], .noWorksheet henabled ho hposition, rfl, ?_⟩
        simp only [finishSheet, run_get_bind, ho, run_modify_bind, henabled, ↓reduceIte, hposition,
          hlost, run_throw_bind]
      have hrun : finishSheet s =
          (do
            fitColumns o.position 0 o.widths
            modify fun s => { s with finished := s.finished ++ [o.report] } : Step Unit)
            { s with sheet := none } := by
        simp only [finishSheet, run_get_bind, ho, run_modify_bind, henabled, ↓reduceIte, hposition]
      rw [hrun]
      obtain hfit | ⟨f, front, hfit, hf⟩ :=
        fitColumns_cases { s with sheet := none } o.position 0 o.widths
      · exact .inl (run_bind_of_ok hfit _)
      · refine .inr ⟨f, o, front, ?_, rfl, run_bind_of_error hfit _⟩
        obtain ⟨rfl, hchecked, width, hw, hadd⟩ | ⟨rfl, hlt⟩ := hf
        · exact .overflow henabled ho hchecked hw hadd
        · exact .noColumn henabled ho (by omega)

theorem finishSheet_of_ready (h : s.Ready) : finishSheet s = .ok () s.finish := by
  obtain hrun | ⟨f, _, _, hf, -⟩ := s.finishSheet_cases
  · exact hrun
  · exact absurd hf (h f)

theorem ready_of_none (h : s.sheet = none) : s.Ready := by
  rintro f hf
  cases hf with
  | overflow _ ho | noWorksheet _ ho | noColumn _ ho => exact nomatch h.symm.trans ho

theorem eq_finish_of_ok (h : finishSheet s = .ok () t) : t = s.finish := by
  obtain hrun | ⟨_, _, _, -, -, hrun⟩ := s.finishSheet_cases
  · exact (EStateM.Result.ok.inj (h.symm.trans hrun)).2
  · exact nomatch h.symm.trans hrun

theorem exists_lost_of_error (h : finishSheet s = .error f t) :
    s.Stops f ∧ ∃ o widths, s.sheet = some o ∧ t = s.lost o widths := by
  obtain hrun | ⟨f', o, widths, hf, ho, hrun⟩ := s.finishSheet_cases
  · exact nomatch h.symm.trans hrun
  · obtain ⟨rfl, rfl⟩ := EStateM.Result.error.inj (h.symm.trans hrun)
    exact ⟨hf, o, widths, ho, rfl⟩

/-! ## Reports -/

theorem report_of_none (h : s.sheet = none) : s.report = s.finished := by
  rw [report, h, Option.map_none, Option.toList_none, List.append_nil]

theorem report_of_some (h : s.sheet = some o) : s.report = s.finished ++ [o.report] := by
  rw [report, h]
  rfl

theorem finished_prefix_report (s : WorkbookSink) : s.finished <+: s.report :=
  List.prefix_append ..

theorem finished_finish (s : WorkbookSink) : s.finish.finished = s.report := by
  rw [finish]
  split
  · next h => rw [report_of_none h]
  · next o h => rw [report_of_some h]

/-! ## What stays without the worksheet -/

/-- **The open worksheet was taken away,** and nothing changed but the widths of its columns and
what is kept of the reports. -/
structure Parted (s t : WorkbookSink) : Prop where
  sheet : t.sheet = none
  options : t.options = s.options
  checked : t.checked = s.checked
  taken : t.taken = s.taken
  opened : t.opened = s.opened
  closed : t.closed = s.closed
  finished : s.finished <+: t.finished
  finished_prefix : t.finished <+: s.report
  book : ∃ position widths, t.book = s.book.update position fun w => w.setWidths 0 widths

theorem parted_lost (s : WorkbookSink) (o : OpenSheet) (widths : List Nat) :
    Parted s (s.lost o widths) where
  sheet := rfl
  options := rfl
  checked := rfl
  taken := rfl
  opened := rfl
  closed := rfl
  finished := List.prefix_rfl
  finished_prefix := s.finished_prefix_report
  book := ⟨_, _, rfl⟩

theorem parted_of_error (h : finishSheet s = .error f t) : Parted s t := by
  obtain ⟨-, o, widths, -, rfl⟩ := exists_lost_of_error h
  exact s.parted_lost o widths

theorem parted_finish (s : WorkbookSink) : Parted s s.finish := by
  have hfinished := s.finished_finish
  have hprefix := s.finished_prefix_report
  rw [← hfinished] at hprefix
  cases ho : s.sheet with
  | none =>
    rw [finish_of_none ho] at hfinished ⊢
    exact ⟨ho, rfl, rfl, rfl, rfl, rfl, List.prefix_rfl, hfinished ▸ List.prefix_rfl, 0, [],
      congrArg book (s.fitted_nil 0 0).symm⟩
  | some o =>
    rw [finish_of_some ho] at hfinished hprefix ⊢
    exact ⟨rfl, rfl, rfl, rfl, rfl, rfl, hprefix, hfinished ▸ List.prefix_rfl, _, _, rfl⟩

namespace Parted

variable (h : Parted s t)

include h

theorem report_eq : t.report = t.finished :=
  report_of_none h.sheet

theorem length : t.book.worksheets.length = s.book.worksheets.length := by
  obtain ⟨position, widths, hbook⟩ := h.book
  rw [hbook, Workbook.length_update]

theorem name? (p : Nat) : t.book.name? p = s.book.name? p := by
  obtain ⟨position, widths, hbook⟩ := h.book
  rw [hbook, Workbook.name?_update fun w => w.name_setWidths widths]

theorem cell? (p i j : Nat) : t.book.cell? p i j = s.book.cell? p i j := by
  obtain ⟨position, widths, hbook⟩ := h.book
  rw [hbook, Workbook.cell?_update fun w => w.cell?_setWidths widths i j]

end Parted

@[simp] theorem sheet_finish (s : WorkbookSink) : s.finish.sheet = none :=
  s.parted_finish.sheet

@[simp] theorem options_finish (s : WorkbookSink) : s.finish.options = s.options :=
  s.parted_finish.options

@[simp] theorem opened_finish (s : WorkbookSink) : s.finish.opened = s.opened :=
  s.parted_finish.opened

@[simp] theorem closed_finish (s : WorkbookSink) : s.finish.closed = s.closed :=
  s.parted_finish.closed

@[simp] theorem taken_finish (s : WorkbookSink) : s.finish.taken = s.taken :=
  s.parted_finish.taken

@[simp] theorem length_finish (s : WorkbookSink) :
    s.finish.book.worksheets.length = s.book.worksheets.length :=
  s.parted_finish.length

@[simp] theorem report_finish (s : WorkbookSink) : s.finish.report = s.report :=
  s.parted_finish.report_eq.trans s.finished_finish

end WorkbookSink

end RecordSheet
