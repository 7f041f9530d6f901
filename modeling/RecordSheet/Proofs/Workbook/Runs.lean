import RecordSheet.Proofs.Workbook.Calls

/-!
# Proofs/Workbook/Runs — what stays in a sink through all calls

Each call keeps what was there before it: the names and finished reports of the worksheets, and the
rows of a worksheet that is finished or has gone past them (`Extends`).  The open worksheet is the
one opened last, and no worksheet behind it has cells yet (`Aligned`).  Both are shown for one call
by its effect, and then for all calls (`extends_runs`, `Aligned.runs`).
-/

namespace RecordSheet.WorkbookSink

open Outcome

variable {s t u : WorkbookSink} {o o' : OpenSheet} {c : Call}
  {r : EStateM.Result SinkFault WorkbookSink Unit} {p i j : Nat}

/-! ## A worksheet added -/

@[simp] theorem opened_stray (s : WorkbookSink) (name : String) :
    (s.stray name).opened = s.opened :=
  s.opened_finish

@[simp] theorem length_stray (s : WorkbookSink) (name : String) :
    (s.stray name).book.worksheets.length = s.book.worksheets.length + 1 := by
  rw [stray, Workbook.length_add, length_finish]

theorem name?_stray_of_lt (name : String) (h : p < s.book.worksheets.length) :
    (s.stray name).book.name? p = s.book.name? p := by
  rw [← length_finish] at h
  rw [stray, Workbook.name?_add_of_lt h, s.parted_finish.name?]

@[simp] theorem cell?_stray (s : WorkbookSink) (name : String) (p i j : Nat) :
    (s.stray name).book.cell? p i j = s.book.cell? p i j := by
  rw [stray, Workbook.cell?_add, s.parted_finish.cell?]

@[simp] theorem opened_begun (s : WorkbookSink) (name : String) :
    (s.begun name).opened = s.opened + 1 :=
  congrArg (· + 1) s.opened_finish

@[simp] theorem length_begun (s : WorkbookSink) (name : String) :
    (s.begun name).book.worksheets.length = s.book.worksheets.length + 1 :=
  Workbook.length_update.trans (s.length_stray name)

@[simp] theorem cell?_begun (s : WorkbookSink) (name : String) (p i j : Nat) :
    (s.begun name).book.cell? p i j = s.book.cell? p i j :=
  calc (s.begun name).book.cell? p i j
    _ = (s.stray name).book.cell? p i j := Workbook.cell?_update fun _ => rfl
    _ = s.book.cell? p i j := s.cell?_stray name p i j

theorem name?_begun_of_lt (name : String) (h : p < s.book.worksheets.length) :
    (s.begun name).book.name? p = s.book.name? p := by
  have hne : p ≠ s.finish.book.worksheets.length := s.length_finish ▸ Nat.ne_of_lt h
  rw [begun, Workbook.name?_update_of_ne hne, name?_stray_of_lt name h]

/-- The worksheet that was added gets the name. -/
theorem name?_begun (s : WorkbookSink) (name : String) :
    (s.begun name).book.name? s.book.worksheets.length = some (s.finish.named name).1 := by
  rw [← length_finish, begun, Workbook.name?, Workbook.getElem?_update_self, stray, Workbook.add,
    List.getElem?_concat_length]
  rfl

/-! ## A line on the open worksheet -/

/-- A line was put on the open worksheet, in whole or in part. -/
structure Lined (s : WorkbookSink) (o : OpenSheet) (c : Call) (t : WorkbookSink) (o' : OpenSheet) :
    Prop where
  takes : o.Takes c
  sheet : t.sheet = some o'
  position : o'.position = o.position
  name : o'.report.name = o.report.name
  settled : o.hasHeader = true → o'.hasHeader = true ∧ o.report.rows ≤ o'.report.rows
  opened : t.opened = s.opened
  options : t.options = s.options
  checked : t.checked = s.checked
  closed : t.closed = s.closed
  taken : t.taken = s.taken
  finished : t.finished = s.finished
  length : t.book.worksheets.length = s.book.worksheets.length
  names : ∀ p, t.book.name? p = s.book.name? p
  cells : ∀ p i j, p ≠ o.position ∨ i ≠ c.line o → t.book.cell? p i j = s.book.cell? p i j

theorem lined_cut (ht : o.Takes c) :
    Lined s o c (s.cut o c) (o.spoiled s.options.autofit c.fitting c) where
  takes := ht
  sheet := rfl
  position := OpenSheet.position_spoiled
  name := by rw [OpenSheet.report_spoiled]
  settled h := by rw [OpenSheet.hasHeader_spoiled, OpenSheet.report_spoiled]; exact ⟨h, le_rfl⟩
  opened := rfl
  options := rfl
  checked := rfl
  closed := rfl
  taken := rfl
  finished := rfl
  length := length_fill
  names := name?_fill
  cells p i j h := cell?_fill_of_outside (or_assoc.1 (.inl h))

theorem length_wrote (s : WorkbookSink) (o : OpenSheet) (c : Call) :
    (s.wrote o c).book.worksheets.length = s.book.worksheets.length := by
  rw [wrote]
  dsimp only
  split
  · rw [Workbook.length_update, length_fill]
  · exact length_fill

theorem name?_wrote (s : WorkbookSink) (o : OpenSheet) (c : Call) (p : Nat) :
    (s.wrote o c).book.name? p = s.book.name? p := by
  rw [wrote, ← name?_fill (s := s) (o := o) (c := c)]
  dsimp only
  split
  · exact Workbook.name?_update fun _ => rfl
  · rfl

theorem cell?_wrote (s : WorkbookSink) (o : OpenSheet) (c : Call) (p i j : Nat) :
    (s.wrote o c).book.cell? p i j = (s.fill o c c.texts).cell? p i j := by
  rw [wrote]
  dsimp only
  split
  · exact Workbook.cell?_update fun _ => rfl
  · rfl

theorem lined_wrote (ht : o.Takes c) :
    Lined s o c (s.wrote o c) (o.after s.options.autofit c) where
  takes := ht
  sheet := rfl
  position := OpenSheet.position_after
  name := OpenSheet.name_after
  settled h := by
    cases c with
    | header headers => exact nomatch h.symm.trans ht.1
    | row cells => exact ⟨h, Nat.le_succ _⟩
    | begin _ | close _ => exact ht.elim
  opened := rfl
  options := rfl
  checked := rfl
  closed := rfl
  taken := rfl
  finished := rfl
  length := length_wrote s o c
  names := name?_wrote s o c
  cells p i j h := (cell?_wrote s o c p i j).trans (cell?_fill_of_outside (or_assoc.1 (.inl h)))

/-- A line leaves the open worksheet open. -/
theorem Effect.exists_sheet (h : Effect c s r) (hw : c.Writes) (ho : s.sheet = some o) :
    ∃ o', (left r).sheet = some o' ∧ o'.position = o.position ∧
      o'.report.name = o.report.name := by
  obtain ⟨_, rfl⟩ | ⟨ht, rfl⟩ | ⟨ht, -, rfl⟩ := h.line_cases hw ho
  · exact ⟨o, ho, rfl, rfl⟩
  · have hline := lined_wrote (s := s) ht
    exact ⟨_, hline.sheet, hline.position, hline.name⟩
  · have hline := lined_cut (s := s) ht
    exact ⟨_, hline.sheet, hline.position, hline.name⟩

/-- A line goes below the header and the rows that the worksheet has. -/
theorem ne_line_of_takes (ht : o.Takes c) (hheader : o.hasHeader = true) (hi : i ≤ o.report.rows) :
    i ≠ c.line o := by
  cases c with
  | header headers => exact nomatch hheader.symm.trans ht.1
  | row cells => exact Nat.ne_of_lt (Nat.lt_succ_of_le hi)
  | begin _ | close _ => exact ht.elim

/-! ## What every call keeps -/

/-- No more texts come to a row of a worksheet: the worksheet is finished, or has that many rows. -/
def Settled (s : WorkbookSink) (p i : Nat) : Prop :=
  p < s.opened ∧ ∀ o, s.sheet = some o → o.position = p → o.hasHeader = true ∧ i ≤ o.report.rows

/-- **Names, settled rows and finished reports stay** from one sink to another. -/
structure Extends (s t : WorkbookSink) : Prop where
  options : t.options = s.options
  checked : t.checked = s.checked
  finished : s.finished <+: t.finished
  length_le : s.book.worksheets.length ≤ t.book.worksheets.length
  names : ∀ p, p < s.book.worksheets.length → t.book.name? p = s.book.name? p
  settled : ∀ p i, s.Settled p i → t.Settled p i
  cells : ∀ p i j, s.Settled p i → t.book.cell? p i j = s.book.cell? p i j

theorem Extends.refl (s : WorkbookSink) : Extends s s :=
  ⟨rfl, rfl, List.prefix_rfl, le_rfl, fun _ _ => rfl, fun _ _ h => h, fun _ _ _ _ => rfl⟩

theorem Extends.trans (h : Extends s t) (h' : Extends t u) : Extends s u where
  options := h'.options.trans h.options
  checked := h'.checked.trans h.checked
  finished := h.finished.trans h'.finished
  length_le := h.length_le.trans h'.length_le
  names _ hp := (h'.names _ (hp.trans_le h.length_le)).trans (h.names _ hp)
  settled p i hi := h'.settled p i (h.settled p i hi)
  cells p i j hi := (h'.cells p i j (h.settled p i hi)).trans (h.cells p i j hi)

theorem Parted.extends (h : Parted s t) : Extends s t where
  options := h.options
  checked := h.checked
  finished := h.finished
  length_le := h.length.ge
  names p _ := h.name? p
  settled _ _ hi := ⟨h.opened ▸ hi.1, fun _ ho => nomatch h.sheet.symm.trans ho⟩
  cells p i j _ := h.cell? p i j

theorem extends_stray (s : WorkbookSink) (name : String) : Extends s (s.stray name) :=
  have hfinish := s.parted_finish.extends
  { options := hfinish.options
    checked := hfinish.checked
    finished := hfinish.finished
    length_le := (s.length_stray name).ge.trans' (Nat.le_succ _)
    names := fun _ hp => name?_stray_of_lt name hp
    settled := hfinish.settled
    cells := fun p i j _ => s.cell?_stray name p i j }

theorem extends_begun (s : WorkbookSink) (name : String) : Extends s (s.begun name) where
  options := s.options_begun name
  checked := s.parted_finish.checked
  finished := s.parted_finish.finished
  length_le := (s.length_begun name).ge.trans' (Nat.le_succ _)
  names _ hp := name?_begun_of_lt name hp
  settled p i h := by
    refine ⟨s.opened_begun name ▸ Nat.lt_succ_of_lt h.1, ?_⟩
    rintro o ⟨⟩ hp
    exact absurd (s.opened_finish ▸ hp) (Nat.ne_of_gt h.1)
  cells p i j _ := s.cell?_begun name p i j

theorem Lined.extends (h : Lined s o c t o') (ho : s.sheet = some o) : Extends s t where
  options := h.options
  checked := h.checked
  finished := h.finished ▸ List.prefix_rfl
  length_le := h.length.ge
  names p _ := h.names p
  settled p i hi := by
    refine ⟨h.opened ▸ hi.1, fun o'' ho'' hp => ?_⟩
    obtain rfl := Option.some.inj (h.sheet.symm.trans ho'')
    obtain ⟨hheader, hrows⟩ := hi.2 o ho (h.position ▸ hp)
    exact ⟨(h.settled hheader).1, hrows.trans (h.settled hheader).2⟩
  cells p i j hi := by
    refine h.cells p i j (Classical.or_iff_not_imp_left.2 fun hp => ?_)
    obtain ⟨hheader, hrows⟩ := hi.2 o ho (not_not.1 hp).symm
    exact ne_line_of_takes h.takes hheader hrows

theorem Effect.extends (h : Effect c s r) : Extends s (left r) := by
  induction h with
  | refused => exact .refl _
  | lost _ _ hr => exact (parted_of_error hr).extends
  | stray => exact extends_stray _ _
  | begun => exact extends_begun _ _
  | within hs hw ho hf hr ih => exact (extends_begun _ _).trans ih
  | wrote hs ho ht => exact (lined_wrote ht).extends ho
  | cut hs ho ht => exact (lined_cut ht).extends ho
  | idle => exact .refl _
  | @unsaved s => exact s.parted_finish.extends
  | @saved s => exact { s.parted_finish.extends with settled := s.parted_finish.extends.settled }

/-- **What is extended stays** through all calls. -/
theorem extends_runs (s : WorkbookSink) (calls : List Call) : Extends s (s.runs calls) := by
  induction calls generalizing s with
  | nil => exact .refl s
  | cons c rest ih => exact (effect_run c s).extends.trans (ih _)

/-! ## Positions -/

/-- The open worksheet is the one opened last, and none behind it has cells.  A closed sink has
none. -/
structure Aligned (s : WorkbookSink) : Prop where
  closed : s.closed = true → s.sheet = none
  opened_le : s.opened ≤ s.book.worksheets.length
  position : ∀ o, s.sheet = some o → o.position + 1 = s.opened
  blank : ∀ p i j, s.opened ≤ p → s.book.cell? p i j = none

theorem Aligned.parted (hs : s.Aligned) (h : Parted s t) : t.Aligned where
  closed _ := h.sheet
  opened_le := by rw [h.opened, h.length]; exact hs.opened_le
  position o ho := nomatch h.sheet.symm.trans ho
  blank p i j hp := by rw [h.cell?]; exact hs.blank p i j (h.opened ▸ hp)

theorem Aligned.stray (h : s.Aligned) (name : String) : (s.stray name).Aligned where
  closed _ := s.sheet_finish
  opened_le := by
    rw [opened_stray, length_stray]
    exact h.opened_le.trans (Nat.le_succ _)
  position := (h.parted s.parted_finish).position
  blank p i j hp := by rw [cell?_stray]; exact h.blank p i j (s.opened_stray name ▸ hp)

theorem Aligned.begun (h : s.Aligned) (hs : s.closed = false) (name : String) :
    (s.begun name).Aligned where
  closed htrue := nomatch htrue.symm.trans ((s.closed_begun name).trans hs)
  opened_le := by
    rw [opened_begun, length_begun]
    exact Nat.succ_le_succ h.opened_le
  position := by
    rintro o ⟨⟩
    rfl
  blank p i j hp := by
    rw [opened_begun] at hp
    rw [cell?_begun, h.blank p i j (Nat.le_of_succ_le hp)]

theorem Aligned.lined (h : s.Aligned) (ho : s.sheet = some o) (hline : Lined s o c t o') :
    t.Aligned where
  closed htrue := nomatch (h.closed (hline.closed ▸ htrue)).symm.trans ho
  opened_le := by rw [hline.opened, hline.length]; exact h.opened_le
  position o'' ho'' := by
    obtain rfl := Option.some.inj (hline.sheet.symm.trans ho'')
    rw [hline.position, hline.opened, h.position o ho]
  blank p i j hp := by
    rw [hline.opened] at hp
    have hne : p ≠ o.position := by have := h.position o ho; omega
    rw [hline.cells p i j (.inl hne), h.blank p i j hp]

theorem Effect.aligned (h : Effect c s r) (hs : s.Aligned) : (left r).Aligned := by
  induction h with
  | refused => exact hs
  | lost _ _ hr => exact hs.parted (parted_of_error hr)
  | stray => exact hs.stray _
  | begun hclosed => exact hs.begun hclosed _
  | within hclosed hw ho hf hr ih => exact ih (hs.begun hclosed _)
  | wrote hs' ho ht => exact hs.lined ho (lined_wrote ht)
  | cut hs' ho ht => exact hs.lined ho (lined_cut ht)
  | idle => exact hs
  | @unsaved s => exact hs.parted s.parted_finish
  | @saved s => exact { hs.parted s.parted_finish with closed := fun _ => s.sheet_finish }

theorem Aligned.runs (h : s.Aligned) (calls : List Call) : (s.runs calls).Aligned := by
  induction calls generalizing s with
  | nil => exact h
  | cons c rest ih => exact ih ((effect_run c s).aligned h)

section Make

variable {path : String} {options : SinkOptions} {checked : Bool}

theorem make_eq_ok (h : make path options checked = .ok s) :
    s = { path := path, options := options, checked := checked } := by
  obtain ⟨_, -, h⟩ := bind_eq_ok_iff.1 h
  exact (Except.ok.inj h).symm

theorem aligned_make (h : make path options checked = .ok s) : s.Aligned := by
  obtain rfl := make_eq_ok h
  exact ⟨nofun, le_rfl, nofun, fun _ _ _ _ => rfl⟩

theorem options_runs_make (h : make path options checked = .ok s) (calls : List Call) :
    (s.runs calls).options = options := by
  rw [(extends_runs s calls).options, make_eq_ok h]

end Make

end RecordSheet.WorkbookSink
