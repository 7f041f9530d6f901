import RecordSheet.Proofs.Workbook.Reporting

/-!
# Proofs/Workbook/FailedCalls — a call that fails ends the open worksheet

The open worksheet is finished before the next one gets its name, and before the workbook is saved.
When that fails the worksheet is not opened again (`Sound.cases_of_fault`): its rows and its report
are settled, and a row that follows goes to a worksheet begun for it, which has no header to take it
under (`exists_putRow_error`).
-/

namespace RecordSheet.WorkbookSink

open Outcome

variable {s t : WorkbookSink} {o : OpenSheet} {c : Call} {fault : FileFault}

/-- What is left when a worksheet could not be begun or the workbook not be saved: the open
worksheet is finished, and behind it may be one without a name. -/
theorem Sound.cases_of_fault (h : s.Sound) (hr : c.run s = .error (.file fault) t)
    (hc : (∃ fault, c = .close fault) ∨ ∃ name, c = .begin name) :
    s.closed = false ∧ (t = s.finish ∨ ∃ name, t = s.stray name) := by
  have hw : ¬ c.Writes := by
    obtain ⟨_, rfl⟩ | ⟨_, rfl⟩ := hc <;> exact id
  have heffect := effect_run c s
  rw [hr] at heffect
  cases heffect with
  | refused hf => exact hf.elim
  | lost _ _ hlost => exact nomatch (h.of_error hlost).1
  | stray hs => exact ⟨hs, .inr ⟨_, rfl⟩⟩
  | within _ hw' => exact absurd hw' hw
  | cut _ _ ht =>
    obtain ⟨_, rfl⟩ | ⟨_, rfl⟩ := hc <;> exact ht.elim
  | unsaved hs => exact ⟨hs, .inl rfl⟩

/-- A row without an open worksheet is refused by the one begun for it, which has no header. -/
theorem putRow_of_unopened (hs : s.closed = false) (ho : s.sheet = none)
    (hcheck : SheetName.check (s.finish.named s.options.defaultSheet).1 = .ok ())
    (cells : List Cell) :
    putRow cells s =
      .error (.rowBeforeHeader (s.finish.named s.options.defaultSheet).1)
        (s.begun s.options.defaultSheet) :=
  ((putRow_of_none hs ho).2 hcheck).trans
    (putRow_of_no_header ((s.closed_begun _).trans hs) rfl rfl)

/-- **A row without an open worksheet fails** in one of two ways, and no cell changes. -/
theorem exists_putRow_error (hs : s.closed = false) (ho : s.sheet = none) (cells : List Cell) :
    ∃ f u, putRow cells s = .error f u ∧ u.finished = s.finished ∧
      (∀ p i j, u.book.cell? p i j = s.book.cell? p i j) ∧
      let name := (s.named s.options.defaultSheet).1
      (SheetName.check name = .ok () ∧ f = .rowBeforeHeader name ∨
        ∃ g, SheetName.check name = .error g ∧ f = .file (.sheetName g)) := by
  have hfinished : s.finish.finished = s.finished := by rw [finished_finish, report_of_none ho]
  rw [← named_finish]
  cases hcheck : SheetName.check (s.finish.named s.options.defaultSheet).1 with
  | error g =>
    exact ⟨_, _, (putRow_of_none hs ho).1 g hcheck, hfinished, s.cell?_stray _,
      .inr ⟨g, hcheck, rfl⟩⟩
  | ok _ =>
    exact ⟨_, _, putRow_of_unopened hs ho hcheck cells, hfinished, s.cell?_begun _,
      .inl ⟨hcheck, rfl⟩⟩

/-! ## A sink that cannot be saved -/

/-- A new sink for a file in a folder that does not exist. -/
def nowhere : WorkbookSink where
  path := "missing/out.xlsx"
  options := {}

/-- The worksheet begun in it. -/
def nowhereSheet : OpenSheet :=
  ⟨0, ⟨"S", 0, 0, []⟩, [], [], 0, false⟩

/-- The sink with a header on that worksheet. -/
def nowhereHeader : WorkbookSink :=
  (nowhere.begun "S").wrote nowhereSheet (.header ["A"])

theorem exists_history_nowhereHeader : ∃ es, History nowhere es nowhereHeader := by
  have hbegin : (Call.begin "S").run nowhere = .ok () (nowhere.begun "S") :=
    run_discard_of_ok (beginSheet_of_check_ok rfl rfl rfl)
  have hheader : (Call.header ["A"]).run (nowhere.begun "S") = .ok () nowhereHeader :=
    run_of_fits rfl rfl ⟨rfl, by decide, by decide⟩ (by decide)
  exact ⟨_, (History.start.call hbegin).call hheader⟩

theorem run_cutName_nowhereHeader :
    (Call.begin cutName).run nowhereHeader =
      .error (.file (.sheetName (.apostropheAtEnd "xxxxxxxxxxxxxxxxxxxxxxxxxxxxxx'")))
        (nowhereHeader.stray cutName) :=
  run_discard_of_error (beginSheet_of_check_error rfl rfl rfl)

/-- The file system finds no folder for the file. -/
def noFolder : SaveFault :=
  .system "No such file or directory (os error 2)"

theorem run_close_nowhereHeader :
    (Call.close (some noFolder)).run nowhereHeader =
      .error (.file (.unsaved noFolder)) nowhereHeader.finish :=
  close_of_fault rfl rfl noFolder

/-! ## The result -/

/-- **A call that fails ends the open worksheet.**  When the workbook refuses the name of the next
worksheet, or is not saved, the open worksheet is finished all the same: its report is one of the
finished ones, no cell changes, and nothing lands on it any more.  A row that follows is refused and
leaves no cell: it goes to an ordinary worksheet begun for it, whose name may be refused and which
has no header. -/
theorem failed_call_finishes {path : String} {options : SinkOptions} {checked : Bool}
    {s₀ : WorkbookSink} {es : List Event} (hmake : make path options checked = .ok s₀)
    (hbefore : History s₀ es s) (ho : s.sheet = some o)
    (hc : (∃ fault, c = .close fault) ∨ ∃ name, c = .begin name)
    (hr : c.run s = .error (.file fault) t) :
    t.sheet = none ∧ t.finished = s.finished ++ [o.report] ∧
      (∀ p i j, t.book.cell? p i j = s.book.cell? p i j) ∧
      (∀ es' u, History t es' u → t.finished <+: u.finished ∧
        ∀ i j, u.book.cell? o.position i j = s.book.cell? o.position i j) ∧
      ∀ cells, ∃ f u, putRow cells t = .error f u ∧ u.finished = t.finished ∧
        (∀ p i j, u.book.cell? p i j = s.book.cell? p i j) ∧
        let name := (t.named options.defaultSheet).1
        (SheetName.check name = .ok () ∧ f = .rowBeforeHeader name ∨
          ∃ g, SheetName.check name = .error g ∧ f = .file (.sheetName g)) := by
  have hsound := hbefore.sound (sound_make hmake)
  have hextends := effect_run c s |>.extends
  rw [hr] at hextends
  have hoptions : t.options = options :=
    hextends.options.trans (by rw [hbefore.extends.options, make_eq_ok hmake])
  obtain ⟨hclosed, hnone, hopened, hfinished, hcells⟩ : t.closed = false ∧ t.sheet = none ∧
      t.opened = s.opened ∧ t.finished = s.report ∧
        ∀ p i j, t.book.cell? p i j = s.book.cell? p i j := by
    obtain ⟨hs, rfl | ⟨name, rfl⟩⟩ := hsound.cases_of_fault hr hc
    · exact ⟨s.closed_finish.trans hs, s.sheet_finish, s.opened_finish, s.finished_finish,
        s.parted_finish.cell?⟩
    · exact ⟨s.closed_finish.trans hs, s.sheet_finish, s.opened_stray name, s.finished_finish,
        s.cell?_stray name⟩
  refine ⟨hnone, hfinished.trans (report_of_some ho), hcells, fun es' u hu =>
    ⟨hu.extends.finished, fun i j => ?_⟩, fun cells => ?_⟩
  · have hsettled : t.Settled o.position i := by
      refine ⟨hopened ▸ Nat.lt_of_succ_le (hsound.aligned.position o ho).le, fun o' ho' => ?_⟩
      exact nomatch hnone.symm.trans ho'
    rw [hu.extends.cells _ i j hsettled, hcells]
  · obtain ⟨f, u, hrow, hkept, hsame, hfault⟩ := exists_putRow_error hclosed hnone cells
    rw [hoptions] at hfault
    exact ⟨f, u, hrow, hkept, fun p i j => (hsame p i j).trans (hcells p i j), hfault⟩

/-- A worksheet with a header, and a name that is refused. -/
theorem failed_call_finishes_cutName :
    ∃ s₀ es s o f t, make "missing/out.xlsx" {} = .ok s₀ ∧ History s₀ es s ∧ s.sheet = some o ∧
      o.hasHeader = true ∧ (Call.begin cutName).run s = .error (.file f) t ∧
      t.finished = [⟨"S", 1, 0, []⟩] ∧
      ∀ cells, ∃ f u, putRow cells t = .error f u ∧ u.finished = t.finished := by
  have hmake : make "missing/out.xlsx" {} = .ok nowhere := rfl
  obtain ⟨es, hbefore⟩ := exists_history_nowhereHeader
  obtain ⟨-, hfinished, -, -, hrow⟩ :=
    failed_call_finishes hmake hbefore rfl (.inr ⟨_, rfl⟩) run_cutName_nowhereHeader
  refine ⟨_, es, _, _, _, _, hmake, hbefore, rfl, rfl, run_cutName_nowhereHeader, hfinished,
    fun cells => ?_⟩
  obtain ⟨f, u, hrun, hkept, -⟩ := hrow cells
  exact ⟨f, u, hrun, hkept⟩

/-- **The open worksheet does not stay open** when the next one is refused or the workbook is not
saved: a row that it would take is refused then. -/
theorem not_open_after_failed_call :
    ∃ s₀ es s o f t u, make "missing/out.xlsx" {} = .ok s₀ ∧ History s₀ es s ∧
      s.sheet = some o ∧ o.hasHeader = true ∧
      (∃ v, putRow [⟨"a", "A", some "1"⟩] s = .ok () v ∧
        v.book.cell? 0 1 0 = some ⟨some "1", false⟩) ∧
      (Call.begin cutName).run s = .error (.file (.sheetName f)) t ∧ t.sheet = none ∧
      (∃ v, putRow [⟨"a", "A", some "1"⟩] t = .error (.rowBeforeHeader "Sheet") v) ∧
      (Call.close (some noFolder)).run s = .error (.file (.unsaved noFolder)) u ∧ u.sheet = none ∧
      ∃ v, putRow [⟨"a", "A", some "1"⟩] u = .error (.rowBeforeHeader "Sheet") v := by
  obtain ⟨es, hbefore⟩ := exists_history_nowhereHeader
  have hrow : putRow [⟨"a", "A", some "1"⟩] nowhereHeader = .ok () _ :=
    run_of_fits (c := .row [⟨"a", "A", some "1"⟩]) rfl rfl ⟨rfl, rfl, by decide⟩ (by decide)
  exact ⟨_, es, _, _, _, _, _, rfl, hbefore, rfl, rfl, ⟨_, hrow, rfl⟩,
    run_cutName_nowhereHeader, rfl, ⟨_, putRow_of_unopened rfl rfl rfl _⟩,
    run_close_nowhereHeader, rfl, ⟨_, putRow_of_unopened rfl rfl rfl _⟩⟩

end RecordSheet.WorkbookSink
