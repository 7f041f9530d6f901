import RecordSheet.Proofs.Workbook.Runs

/-!
# Proofs/Workbook/Landing — the worksheet that a line lands on

A sink counts the worksheets that it opened and puts lines on the worksheet at that position; a name
is given to the worksheet that was added last.  The two are the same as long as no name is refused,
since a refused name leaves a worksheet that is not counted (`strays`).  With `n` names refused
before, a worksheet is named `n` positions behind the one that gets its lines (`line_lands`).
-/

namespace RecordSheet.WorkbookSink

open Outcome

variable {s t : WorkbookSink} {o o' : OpenSheet} {c : Call}
  {r : EStateM.Result SinkFault WorkbookSink Unit} {j : Nat} {name : String}

/-! ## Names refused -/

/-- Whether a call ended with the name of a worksheet refused. -/
def refusesName : EStateM.Result SinkFault WorkbookSink Unit → Bool
  | .error (.file (.sheetName _)) _ => true
  | _ => false

/-- The number of worksheets that a list of calls leaves without the name they were added for. -/
def strays (s : WorkbookSink) : List Call → Nat
  | [] => 0
  | c :: rest => (if refusesName (c.run s) then 1 else 0) + strays (left (c.run s)) rest

theorem Parted.count (h : Parted s t) :
    t.book.worksheets.length + s.opened = s.book.worksheets.length + t.opened := by
  rw [h.length, h.opened]

theorem Lined.count (h : Lined s o c t o') :
    t.book.worksheets.length + s.opened = s.book.worksheets.length + t.opened := by
  rw [h.length, h.opened]

/-- A call adds the worksheets that it counts, and one more where it refuses a name. -/
theorem Effect.count (h : Effect c s r) :
    (left r).book.worksheets.length + s.opened =
      s.book.worksheets.length + (left r).opened + if refusesName r then 1 else 0 := by
  induction h with
  | @refused s f hf =>
    cases f with
    | file _ => exact hf.elim
    | _ => rfl
  | @lost s t f hs hc hr =>
    have hname : refusesName (.error f t) = false := by
      cases (exists_lost_of_error hr).1 <;> rfl
    rw [hname]
    exact (parted_of_error hr).count
  | @stray s name =>
    change (s.stray name).book.worksheets.length + s.opened =
      s.book.worksheets.length + (s.stray name).opened + 1
    rw [length_stray, opened_stray, Nat.add_right_comm]
  | @begun s name =>
    change (s.begun name).book.worksheets.length + s.opened =
      s.book.worksheets.length + (s.begun name).opened
    rw [length_begun, opened_begun, Nat.add_right_comm, Nat.add_assoc]
  | within hs hw ho hf hr ih =>
    rw [length_begun, opened_begun] at ih
    omega
  | wrote hs ho ht => exact (lined_wrote ht).count
  | cut hs ho ht => exact (lined_cut ht).count
  | idle => rfl
  | @unsaved s => exact s.parted_finish.count
  | @saved s => exact s.parted_finish.count

/-- **Worksheets are counted** but for those whose names were refused. -/
theorem count_runs (s : WorkbookSink) (calls : List Call) :
    (s.runs calls).book.worksheets.length + s.opened =
      s.book.worksheets.length + (s.runs calls).opened + s.strays calls := by
  induction calls generalizing s with
  | nil => rfl
  | cons c rest ih =>
    have hcount := (effect_run c s).count
    have hrest := ih (left (c.run s))
    rw [strays]
    change (runs (left (c.run s)) rest).book.worksheets.length + s.opened =
      s.book.worksheets.length + (runs (left (c.run s)) rest).opened + _
    omega

/-! ## The worksheet of a line -/

/-- Lines go to one worksheet until the next one is begun. -/
theorem exists_sheet_runs {calls : List Call} (hw : ∀ c ∈ calls, c.Writes) (ho : s.sheet = some o) :
    ∃ o', (s.runs calls).sheet = some o' ∧ o'.position = o.position ∧
      o'.report.name = o.report.name := by
  induction calls generalizing s o with
  | nil => exact ⟨o, ho, rfl, rfl⟩
  | cons c rest ih =>
    rw [List.forall_mem_cons] at hw
    obtain ⟨o₁, ho₁, hposition, hname⟩ := (effect_run c s).exists_sheet hw.1 ho
    obtain ⟨o₂, ho₂, hposition', hname'⟩ := ih hw.2 ho₁
    exact ⟨o₂, ho₂, hposition'.trans hposition, hname'.trans hname⟩

/-- A line that was written has its row for good. -/
theorem settled_wrote (hs : s.Aligned) (ho : s.sheet = some o) (ht : o.Takes c) :
    (s.wrote o c).Settled o.position (c.line o) := by
  refine ⟨Nat.lt_of_succ_le (hs.position o ho).le, ?_⟩
  rintro _ ⟨⟩ -
  cases c with
  | header headers => exact ⟨rfl, Nat.zero_le _⟩
  | row cells => exact ⟨ht.1, le_rfl⟩
  | begin _ | close _ => exact ht.elim

theorem cell?_wrote_of_inside (hs : s.Aligned) (ho : s.sheet = some o) {text : String}
    (hj : c.texts[j]? = some text) :
    (s.wrote o c).book.cell? o.position (c.line o) j =
      some (.ofText (c.bold s.options) text) := by
  have hlt : o.position < s.book.worksheets.length :=
    Nat.lt_of_succ_le ((hs.position o ho).le.trans hs.opened_le)
  rw [cell?_wrote, cell?_fill_of_inside hlt hj]

/-- A new sink has a worksheet for each that it opened, and one for each name that it refused. -/
theorem length_runs_make {path : String} {options : SinkOptions} {checked : Bool}
    (h : make path options checked = .ok s) (calls : List Call) :
    (s.runs calls).book.worksheets.length = (s.runs calls).opened + s.strays calls := by
  have hcount := s.count_runs calls
  obtain rfl := make_eq_ok h
  simpa using hcount

theorem eq_wrote_of_run_eq_ok (hw : c.Writes) (ho : s.sheet = some o) (h : c.run s = .ok () t) :
    o.Takes c ∧ t = s.wrote o c := by
  obtain ⟨_, hrun⟩ | ⟨ht, hrun⟩ | ⟨-, -, hrun⟩ := (effect_run c s).line_cases hw ho
  · exact nomatch h.symm.trans hrun
  · exact ⟨ht, (EStateM.Result.ok.inj (h.symm.trans hrun)).2⟩
  · exact nomatch h.symm.trans hrun

/-! ### A sink after a name was refused -/

/-- A name that ends with an apostrophe when it is cut. -/
def cutName : String :=
  "xxxxxxxxxxxxxxxxxxxxxxxxxxxxxx'y"

/-- A new sink that refused the name. -/
def strayed : WorkbookSink where
  path := "out.xlsx"
  options := {}
  book := ⟨[{ name := "Sheet1" }]⟩
  taken := Scope.empty.insert "xxxxxxxxxxxxxxxxxxxxxxxxxxxxxx'" ()

theorem run_cutName :
    (Call.begin cutName).run { path := "out.xlsx", options := {} } =
      .error (.file (.sheetName (.apostropheAtEnd "xxxxxxxxxxxxxxxxxxxxxxxxxxxxxx'"))) strayed :=
  run_discard_of_error (beginSheet_of_check_error rfl rfl rfl)

theorem runs_cutName : runs { path := "out.xlsx", options := {} } [.begin cutName] = strayed :=
  congrArg left run_cutName

theorem beginSheet_runs_cutName :
    beginSheet "ok" (runs { path := "out.xlsx", options := {} } [.begin cutName]) =
      .ok "ok" (strayed.begun "ok") := by
  rw [runs_cutName]
  exact beginSheet_of_check_ok rfl rfl rfl

/-- The worksheet begun next. -/
def nextSheet : OpenSheet :=
  ⟨0, ⟨"ok", 0, 0, []⟩, [], [], 0, false⟩

/-- The sink with a header on that worksheet. -/
def nextHeader : WorkbookSink :=
  (strayed.begun "ok").wrote nextSheet (.header ["A"])

theorem run_nextHeader : (Call.header ["A"]).run (strayed.begun "ok") = .ok () nextHeader :=
  run_of_fits rfl rfl ⟨rfl, by decide, by decide⟩ (by decide)

/-- The sink with a row below it. -/
def nextRow : WorkbookSink :=
  nextHeader.wrote (nextSheet.after {} (.header ["A"])) (.row [⟨"a", "A", some "1"⟩])

theorem run_nextRow :
    (Call.row [⟨"a", "A", some "1"⟩]).run nextHeader = .ok () nextRow :=
  run_of_fits rfl rfl ⟨rfl, rfl, by decide⟩ (by decide)

/-! ### Where lines land -/

/-- **Where a line lands.**  The lines for a worksheet are found at the position that counts the
worksheets opened before, and its name as many positions behind as names were refused before. -/
theorem line_lands {path : String} {options : SinkOptions} {checked : Bool}
    {s₀ s₁ : WorkbookSink} {before between : List Call} {final : String}
    (hmake : make path options checked = .ok s₀)
    (hbegin : beginSheet name (s₀.runs before) = .ok final s₁)
    (hbetween : ∀ c ∈ between, c.Writes) (hw : c.Writes)
    (hc : c.run (s₁.runs between) = .ok () t) (later : List Call) :
    let p := (s₀.runs before).opened
    let q := p + s₀.strays before
    (t.runs later).book.name? q = some final ∧
      (∃ o, (s₁.runs between).sheet = some o ∧ o.position = p ∧ o.report.name = final ∧
        ∀ j text, c.texts[j]? = some text →
          (t.runs later).book.cell? p (c.line o) j = some (.ofText (c.bold options) text)) ∧
      (∀ p', p' ≠ p → ∀ i j, t.book.cell? p' i j = (s₁.runs between).book.cell? p' i j) ∧
      (s₀.strays before ≠ 0 → ∀ i j, t.book.cell? q i j = none) := by
  intro p q
  have hopened := (aligned_make hmake).runs before
  have hclosed : (s₀.runs before).closed = false := by
    rw [← Bool.not_eq_true]
    exact fun htrue => nomatch hbegin.symm.trans (beginSheet_of_closed htrue name)
  obtain ⟨rfl, rfl⟩ := beginSheet_eq_ok hbegin
  have haligned := (hopened.begun hclosed name).runs between
  obtain ⟨o, ho, hposition, hname⟩ :=
    exists_sheet_runs (s := (s₀.runs before).begun name) hbetween rfl
  have hp : o.position = p := hposition.trans (s₀.runs before).opened_finish
  obtain ⟨ht, rfl⟩ := eq_wrote_of_run_eq_ok hw ho hc
  have hline := lined_wrote (s := ((s₀.runs before).begun name).runs between) ht
  have hq : (s₀.runs before).book.worksheets.length = q := length_runs_make hmake before
  have hoptions : (((s₀.runs before).begun name).runs between).options = options := by
    rw [(extends_runs _ between).options, options_begun, options_runs_make hmake]
  refine ⟨?_, ⟨o, ho, hp, hname, fun j text hj => ?_⟩, fun p' hp' i j => ?_, fun hstray i j => ?_⟩
  · have hbegun := (s₀.runs before).name?_begun name
    have hextends :=
      ((extends_runs _ between).trans (hline.extends ho)).trans (extends_runs _ later)
    rw [hq] at hbegun
    rw [hextends.names q (by rw [length_begun, hq]; exact Nat.lt_succ_self q), hbegun]
  · rw [← hp, (extends_runs _ later).cells _ _ _ (settled_wrote haligned ho ht),
      cell?_wrote_of_inside haligned ho hj, hoptions]
  · exact hline.cells p' i j (.inl (hp ▸ hp'))
  · have hlast := haligned.position o ho
    refine (haligned.lined ho hline).blank q i j ?_
    rw [hline.opened, ← hlast, hp]
    exact Nat.add_le_add_left (Nat.one_le_iff_ne_zero.2 hstray) p

/-- A row on the worksheet begun after a name was refused. -/
theorem line_lands_cutName :
    ∃ s₀ s₁ t, make "out.xlsx" {} = .ok s₀ ∧
      beginSheet "ok" (s₀.runs [.begin cutName]) = .ok "ok" s₁ ∧
      (Call.row [⟨"a", "A", some "1"⟩]).run (s₁.runs [.header ["A"]]) = .ok () t ∧
      (t.runs [.close none]).book.name? 1 = some "ok" ∧ ∀ i j, t.book.cell? 1 i j = none := by
  have hstrays : strays { path := "out.xlsx", options := {} } [.begin cutName] = 1 := by
    rw [strays, run_cutName]
    rfl
  have hrow : (Call.row [⟨"a", "A", some "1"⟩]).run ((strayed.begun "ok").runs [.header ["A"]]) =
      .ok () nextRow := by
    rw [← run_nextRow]
    exact congrArg _ (congrArg left run_nextHeader)
  have hmake : make "out.xlsx" {} = .ok { path := "out.xlsx", options := {} } := rfl
  have hbetween : ∀ c ∈ [Call.header ["A"]], c.Writes := List.forall_mem_singleton.2 trivial
  have hw : (Call.row [⟨"a", "A", some "1"⟩]).Writes := trivial
  obtain ⟨hname, -, -, hblank⟩ :=
    line_lands hmake beginSheet_runs_cutName hbetween hw hrow [.close none]
  rw [runs_cutName, hstrays] at hname hblank
  exact ⟨_, _, _, hmake, beginSheet_runs_cutName, hrow, hname, hblank Nat.one_ne_zero⟩

/-- **A line lands on a worksheet without its name** after a name was refused. -/
theorem exists_line_elsewhere :
    ∃ s₀ s₁ s₂ t, make "out.xlsx" {} = .ok s₀ ∧
      beginSheet "ok" (s₀.runs [.begin cutName]) = .ok "ok" s₁ ∧
      (Call.header ["A"]).run s₁ = .ok () s₂ ∧
      (Call.row [⟨"a", "A", some "1"⟩]).run s₂ = .ok () t ∧
      t.book.name? 1 = some "ok" ∧ t.book.cell? 1 0 0 = none ∧ t.book.cell? 1 1 0 = none ∧
      t.book.name? 0 = some "Sheet1" ∧ t.book.cell? 0 0 0 = some ⟨some "A", true⟩ ∧
      t.book.cell? 0 1 0 = some ⟨some "1", false⟩ := by
  exact ⟨_, strayed.begun "ok", nextHeader, nextRow, rfl, beginSheet_runs_cutName, run_nextHeader,
    run_nextRow, rfl, rfl, rfl, rfl, rfl, rfl⟩

end RecordSheet.WorkbookSink
