import RecordSheet.Proofs.Workbook.Calls

/-!
# Proofs/Workbook/Refusal — what a refused line leaves behind

A line that the open worksheet refuses leaves the sink as it was, with one exception: a text that is
too long is found only when the texts before it were written, and these stay (`refused_line`).  What
was reported, the number of measured rows, and all cells but those of the line are the same in any
case.
-/

namespace RecordSheet.WorkbookSink

open Outcome

variable {s t : WorkbookSink} {o : OpenSheet} {c : Call} {f : SinkFault}

theorem widen_nil (widths : List Nat) : widen widths [] = widths := by
  cases widths <;> rfl

/-- Where the first text is too long nothing is written. -/
theorem cut_of_fitting_eq_nil (ho : s.sheet = some o) (h : c.fitting = []) : s.cut o c = s := by
  have hbook : s.fill o c [] = s.book := by
    rw [fill]
    exact congrArg Workbook.mk (List.modify_id ..)
  have hsheet : o.spoiled s.options.autofit [] c = o := by
    cases c with
    | row cells => simp only [OpenSheet.spoiled, widen_nil, ite_self]
    | begin _ | header _ | close _ => rfl
  rw [cut, h, hbook, hsheet, ← ho]

/-! ## A long text behind a short one -/

/-- A row of two texts, of which the second is too long for a cell. -/
def longRow : Call :=
  .row [⟨"a", "A", some "0123456789"⟩,
    ⟨"b", "B", some (.ofList (List.replicate (Workbook.maxTextLength + 1) 'x'))⟩]

theorem fitting_longRow : longRow.fitting = ["0123456789"] := by
  have hlong : Workbook.fits (.ofList (List.replicate (Workbook.maxTextLength + 1) 'x')) =
      false := by
    simp [Workbook.fits]
  have hfits : Workbook.fits "0123456789" = true := rfl
  simp [Call.fitting, Call.texts, longRow, hlong, hfits]

/-- A sink whose only worksheet has the headers of the row. -/
def twoColumns : WorkbookSink :=
  runs { path := "out.xlsx", options := {} } [.header ["A", "B"]]

/-- Its worksheet. -/
def twoColumnsSheet : OpenSheet :=
  ⟨0, ⟨"Sheet", 2, 0, []⟩, ["A", "B"], [1, 1], 0, true⟩

theorem twoColumns_eq :
    twoColumns = (begun { path := "out.xlsx", options := {} } "Sheet").wrote
      ⟨0, ⟨"Sheet", 0, 0, []⟩, [], [], 0, false⟩ (.header ["A", "B"]) := by
  have ht : (⟨0, ⟨"Sheet", 0, 0, []⟩, [], [], 0, false⟩ : OpenSheet).Takes (.header ["A", "B"]) :=
    ⟨rfl, by decide, by decide⟩
  have hrun := run_of_fits (s := begun { path := "out.xlsx", options := {} } "Sheet") rfl rfl ht
    (by decide)
  rw [twoColumns, runs, List.foldl_cons, Call.run,
    (putHeader_of_none rfl rfl (by decide) (by decide)).2 rfl]
  exact congrArg left hrun

theorem sheet_twoColumns : twoColumns.sheet = some twoColumnsSheet := by
  rw [twoColumns_eq]
  rfl

theorem takes_longRow : twoColumnsSheet.Takes longRow :=
  ⟨rfl, rfl, by decide⟩

theorem run_longRow :
    longRow.run twoColumns =
      .error (.file .textTooLong) (twoColumns.cut twoColumnsSheet longRow) := by
  refine run_of_not_fits (by rw [twoColumns_eq]; rfl) sheet_twoColumns takes_longRow fun hfit => ?_
  exact absurd (fitting_eq_texts_iff.2 hfit) (by rw [fitting_longRow]; simp [Call.texts, longRow])

/-! ## Refused lines -/

/-- **A refused line** leaves the sink as it was, or with the texts before the first that is too
long. -/
theorem refused_line (hw : c.Writes) (ho : s.sheet = some o) (h : c.run s = .error f t) :
    (t = s ∨ f = .file .textTooLong ∧ o.Takes c ∧ c.fitting ≠ [] ∧ c.fitting ≠ c.texts ∧
        t = s.cut o c) ∧
      t.report = s.report ∧ t.sheet.map OpenSheet.measured = some o.measured ∧
      ∀ p i j, p ≠ o.position ∨ i ≠ c.line o ∨ c.fitting.length ≤ j →
        t.book.cell? p i j = s.book.cell? p i j := by
  obtain ⟨_, hrun⟩ | ⟨-, hrun⟩ | ⟨ht, hfit, hrun⟩ := (effect_run c s).line_cases hw ho
  · obtain ⟨-, rfl⟩ := EStateM.Result.error.inj (h.symm.trans hrun)
    exact ⟨.inl rfl, rfl, congrArg _ ho, fun p i j _ => rfl⟩
  · exact nomatch h.symm.trans hrun
  · obtain ⟨rfl, rfl⟩ := EStateM.Result.error.inj (h.symm.trans hrun)
    refine ⟨?_, ?_, ?_, fun p i j hout => cell?_fill_of_outside hout⟩
    · by_cases hnil : c.fitting = []
      · exact .inl (cut_of_fitting_eq_nil ho hnil)
      · exact .inr ⟨rfl, ht, hnil, fun heq => hfit (fitting_eq_texts_iff.1 heq), rfl⟩
    · rw [report, report, ho, cut, Option.map_some, Option.map_some, OpenSheet.report_spoiled]
    · rw [cut, Option.map_some, OpenSheet.measured_spoiled]

/-- A long text behind a short one. -/
theorem refused_line_longRow :
    longRow.Writes ∧ twoColumns.sheet = some twoColumnsSheet ∧
      ∃ t, longRow.run twoColumns = .error (.file .textTooLong) t ∧ t.report = twoColumns.report ∧
        t.sheet.map OpenSheet.measured = some 0 ∧
        t.book.cell? 0 1 1 = twoColumns.book.cell? 0 1 1 := by
  refine ⟨trivial, sheet_twoColumns, _, run_longRow, ?_⟩
  obtain ⟨-, hreport, hmeasured, hcells⟩ :=
    refused_line (c := longRow) trivial sheet_twoColumns run_longRow
  exact ⟨hreport, hmeasured, hcells 0 1 1 (.inr (.inr (by rw [fitting_longRow]; rfl)))⟩

/-- **A text that is too long leaves the texts before it** in their cells, and their widths with the
columns. -/
theorem not_unchanged_longRow :
    make "out.xlsx" {} = .ok { path := "out.xlsx", options := {} } ∧
      ∃ t, longRow.run twoColumns = .error (.file .textTooLong) t ∧
        twoColumns.book.cell? 0 1 0 = none ∧
        t.book.cell? 0 1 0 = some ⟨some "0123456789", false⟩ ∧
        twoColumns.sheet.map OpenSheet.widths = some [1, 1] ∧
        t.sheet.map OpenSheet.widths = some [10, 1] := by
  refine ⟨rfl, _, run_longRow, ?_, ?_, by rw [sheet_twoColumns]; rfl, ?_⟩
  · rw [twoColumns_eq]
    rfl
  · rw [cut, fill, fitting_longRow, twoColumns_eq]
    rfl
  · rw [cut, fitting_longRow, twoColumns_eq]
    rfl

end RecordSheet.WorkbookSink
