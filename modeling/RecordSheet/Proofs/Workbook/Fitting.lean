import Mathlib.Order.Bounds.Basic
import RecordSheet.Proofs.Workbook.Landing
import RecordSheet.Proofs.Workbook.Reporting

/-!
# Proofs/Workbook/Fitting — columns are as wide as their texts

While lines arrive a sink keeps the widest text of each column, and it counts the rows that it
measured to know when to stop.  Behind this stands a plain rule: the texts that count are the header
and those of the first rows accepted (`AutofitPolicy.bodyRows`), and what is kept of them is their
greatest width (`OpenSheet.Keeps`).  No line that is refused changes that, unless it is the workbook
that refuses one of its texts.  A worksheet has no widths before it is finished (`Unfitted`), and
those that it gets then stay (`History.retains`).
-/

namespace RecordSheet

open Outcome
open WorkbookSink (Call widen)

variable {headers headers' : List String} {rows : List (List Cell)} {cells : List Cell}
  {p : AutofitPolicy} {o : OpenSheet}

/-! ## The texts that count -/

/-- The text of a column in a row, unless the cell is blank. -/
def columnText? (j : Nat) (cells : List Cell) : Option String :=
  (cells[j]?.bind Cell.text).filter (· ≠ "")

/-- The texts of a column in some rows. -/
def columnTexts (j : Nat) (rows : List (List Cell)) : List String :=
  rows.filterMap (columnText? j)

namespace AutofitPolicy

/-- The rows whose texts count for the widths. -/
def bodyRows (p : AutofitPolicy) (rows : List (List Cell)) : List (List Cell) :=
  if p.includeBody then p.bodyMax.elim rows rows.take else []

@[simp] theorem bodyRows_nil (p : AutofitPolicy) : p.bodyRows [] = [] := by
  rw [bodyRows]
  cases p.bodyMax <;> simp

/-- **One more row** counts as long as the policy measures it. -/
theorem bodyRows_concat (hp : p.enabled = true) (rows : List (List Cell)) (cells : List Cell) :
    p.bodyRows (rows ++ [cells]) =
      if p.measures (p.bodyRows rows).length then p.bodyRows rows ++ [cells]
      else p.bodyRows rows := by
  rw [measures, hp, Bool.true_and, bodyRows, bodyRows]
  cases p.includeBody with
  | false => rfl
  | true =>
    cases p.bodyMax with
    | none => rfl
    | some n =>
      simp only [Option.elim_some, Bool.true_and, ↓reduceIte, decide_eq_true_eq, List.length_take]
      split
      · have hlength : (rows ++ [cells]).length ≤ n := by
          rw [List.length_append, List.length_singleton]
          omega
        rw [List.take_of_length_le hlength, List.take_of_length_le (by omega)]
      · rw [List.take_append_of_le_length (by omega)]

end AutofitPolicy

/-! ## The greatest width of a column -/

/-- The greater of a width and that of a text. -/
def widest (width : Nat) (text : String) : Nat :=
  max width (TextWidth.measure text)

theorem getElem?_widen (widths : List Nat) (texts : List String) (j : Nat) :
    (widen widths texts)[j]? = widths[j]?.map fun width => texts[j]?.elim width (widest width) := by
  induction widths generalizing texts j with
  | nil => cases texts <;> rfl
  | cons width widths ih =>
    cases texts with
    | nil => exact (Option.map_id' ..).symm
    | cons text texts =>
      cases j with
      | zero => rfl
      | succ j => exact ih texts j

/-- A blank cell is as wide as no text. -/
theorem elim_texts_row (cells : List Cell) (j width : Nat) :
    (Call.row cells).texts[j]?.elim width (widest width) =
      (columnText? j cells).elim width (widest width) := by
  have hempty : widest width "" = width := Nat.max_zero width
  rw [Call.texts, List.getElem?_map, columnText?]
  cases cells[j]? with
  | none => rfl
  | some cell =>
    rw [Option.map_some, Option.bind_some, Option.elim_some]
    cases cell.text with
    | none => exact hempty
    | some text =>
      by_cases h : text = ""
      · rw [h]
        exact hempty
      · rw [Option.filter_some_pos (p := (· ≠ "")) (decide_eq_true h)]
        rfl

/-- **The widths kept of some rows,** column by column. -/
theorem getElem?_foldl_widen (widths : List Nat) (rows : List (List Cell)) (j : Nat) :
    (rows.foldl (fun widths cells => widen widths (Call.row cells).texts) widths)[j]? =
      widths[j]?.map ((columnTexts j rows).foldl widest) := by
  induction rows generalizing widths with
  | nil => exact (Option.map_id' ..).symm
  | cons cells rows ih =>
    rw [List.foldl_cons, ih, getElem?_widen, Option.map_map]
    refine congrArg (widths[j]?.map ·) (funext fun width => ?_)
    rw [Function.comp_apply, elim_texts_row, columnTexts, columnTexts, List.filterMap_cons]
    cases columnText? j cells <;> rfl

/-- What is kept of some texts is their greatest width. -/
theorem isGreatest_foldl_widest (header : String) (texts : List String) :
    IsGreatest (TextWidth.measure '' {text | text ∈ header :: texts})
      (texts.foldl widest (TextWidth.measure header)) := by
  induction texts using List.reverseRecOn with
  | nil => simp
  | append_singleton texts text ih =>
    have hset : {x | x ∈ header :: (texts ++ [text])} = insert text {x | x ∈ header :: texts} := by
      ext x
      simp [or_left_comm, or_comm]
    have hinsert := ih.insert (TextWidth.measure text)
    rw [← Set.image_insert_eq] at hinsert
    rw [hset, List.foldl_concat, widest, max_comm]
    exact hinsert

/-! ## What the open worksheet keeps -/

namespace OpenSheet

/-- The worksheet keeps the widths of its headers and of the rows that count. -/
structure Keeps (o : OpenSheet) (p : AutofitPolicy) (headers : List String)
    (rows : List (List Cell)) : Prop where
  unwritten : o.hasHeader = false → rows = []
  widths : o.widths =
    (p.bodyRows rows).foldl (fun widths cells => widen widths (Call.row cells).texts)
    (headers.map TextWidth.measure)
  measured : o.measured = (p.bodyRows rows).length

theorem keeps_nil (hwidths : o.widths = []) (hmeasured : o.measured = 0) : o.Keeps p [] [] := by
  refine ⟨fun _ => rfl, ?_, ?_⟩
  · rw [p.bodyRows_nil, hwidths]
    rfl
  · rw [p.bodyRows_nil, hmeasured]
    rfl

namespace Keeps

/-- The headers start the widths of their columns. -/
theorem header (h : o.Keeps p headers rows) (ht : o.Takes (.header headers')) :
    (o.after p (.header headers')).Keeps p headers' rows := by
  refine ⟨nofun, ?_, h.measured⟩
  rw [h.unwritten ht.1, p.bodyRows_nil]
  rfl

/-- **One more row** widens its columns, if it counts. -/
theorem row (h : o.Keeps p headers rows) (hp : p.enabled = true) (ht : o.Takes (.row cells)) :
    (o.after p (.row cells)).Keeps p headers (rows ++ [cells]) := by
  have hrows := AutofitPolicy.bodyRows_concat hp rows cells
  rw [← h.measured] at hrows
  refine ⟨fun hheader => absurd (ht.1.symm.trans hheader) nofun, ?_, ?_⟩
  · rw [hrows, after, spoiled]
    dsimp only
    split
    · rw [List.foldl_concat, ← h.widths]
    · exact h.widths
  · rw [hrows, after]
    dsimp only
    split
    · rw [List.length_append, ← h.measured]
      rfl
    · exact h.measured

/-- **The width kept of a column** is the greatest of its texts that count. -/
theorem getElem?_widths (h : o.Keeps p headers rows) (j : Nat) :
    o.widths[j]? = headers[j]?.map fun header =>
      (columnTexts j (p.bodyRows rows)).foldl widest (TextWidth.measure header) := by
  rw [h.widths, getElem?_foldl_widen, List.getElem?_map, Option.map_map]
  rfl

end Keeps

end OpenSheet

namespace WorkbookSink

variable {s t u : WorkbookSink} {c : Call} {f : SinkFault}
  {r : EStateM.Result SinkFault WorkbookSink Unit}

/-! ## Runs of lines -/

/-- **A run of lines,** with the headers and the rows accepted of it.  A line that is refused leaves
none of its texts: no text of it was one that the workbook does not take. -/
inductive Fed (s : WorkbookSink) : List String → List (List Cell) → WorkbookSink → Prop where
  | start : Fed s [] [] s
  | header {headers headers' : List String} {rows : List (List Cell)} {t u : WorkbookSink}
    (h : Fed s headers rows t) (hr : putHeader headers' t = .ok () u) : Fed s headers' rows u
  | row {headers : List String} {rows : List (List Cell)} {cells : List Cell} {t u : WorkbookSink}
    (h : Fed s headers rows t) (hr : putRow cells t = .ok () u) : Fed s headers (rows ++ [cells]) u
  | refused {headers : List String} {rows : List (List Cell)} {c : Call} {f : SinkFault}
    {t u : WorkbookSink} (h : Fed s headers rows t) (hw : c.Writes) (hf : f ≠ .file .textTooLong)
    (hr : c.run t = .error f u) : Fed s headers rows u

theorem Fed.exists_history {s₀ : WorkbookSink} {es : List Event} (hs : History s₀ es s)
    (h : Fed s headers rows t) : ∃ es, History s₀ es t := by
  induction h with
  | start => exact ⟨es, hs⟩
  | @header headers headers' rows t u h hr ih =>
    obtain ⟨es, hes⟩ := ih
    exact ⟨_, hes.call (c := .header headers') hr⟩
  | @row headers rows cells t u h hr ih =>
    obtain ⟨es, hes⟩ := ih
    exact ⟨_, hes.call (c := .row cells) hr⟩
  | refused h hw hf hr ih =>
    obtain ⟨es, hes⟩ := ih
    exact ⟨_, hes.call hr⟩

/-- **An accepted line** is on the open worksheet, which may have been begun for it. -/
theorem exists_eq_wrote (hw : c.Writes) (h : c.run s = .ok () t) :
    ∃ s' o, (s' = s ∨ s.sheet = none ∧ s' = s.begun s.options.defaultSheet) ∧
      s'.sheet = some o ∧ o.Takes c ∧ t = s'.wrote o c := by
  cases ho : s.sheet with
  | some o =>
    obtain ⟨ht, rfl⟩ := eq_wrote_of_run_eq_ok hw ho h
    exact ⟨s, o, .inl rfl, ho, ht, rfl⟩
  | none =>
    have heffect := effect_run c s
    rw [h] at heffect
    obtain ⟨_, ⟨⟩⟩ | ⟨_, ⟨⟩⟩ | heffect := heffect.line_cases_of_none hw ho
    obtain ⟨_, ⟨⟩⟩ | ⟨ht, ⟨⟩⟩ | ⟨-, -, ⟨⟩⟩ := heffect.line_cases hw rfl
    exact ⟨_, _, .inr ⟨rfl, rfl⟩, rfl, ht, rfl⟩

/-- A line that is refused, but not by the workbook, leaves the worksheets as they are; one may have
been added for it. -/
theorem cases_of_refused (hw : c.Writes) (hf : f ≠ .file .textTooLong) (h : c.run s = .error f t) :
    t = s ∨ s.sheet = none ∧
      (t = s.stray s.options.defaultSheet ∨ t = s.begun s.options.defaultSheet) := by
  have heffect := effect_run c s
  rw [h] at heffect
  cases ho : s.sheet with
  | some o =>
    obtain ⟨_, ⟨⟩⟩ | ⟨-, ⟨⟩⟩ | ⟨-, -, ⟨⟩⟩ := heffect.line_cases hw ho
    · exact .inl rfl
    · exact absurd rfl hf
  | none =>
    obtain ⟨_, ⟨⟩⟩ | ⟨_, ⟨⟩⟩ | heffect := heffect.line_cases_of_none hw ho
    · exact .inl rfl
    · exact .inr ⟨rfl, .inl rfl⟩
    · obtain ⟨_, ⟨⟩⟩ | ⟨-, ⟨⟩⟩ | ⟨-, -, ⟨⟩⟩ := heffect.line_cases hw rfl
      · exact .inr ⟨rfl, .inr rfl⟩
      · exact absurd rfl hf

/-- The open worksheet keeps the widths of what was accepted; without one nothing was. -/
structure Kept (s : WorkbookSink) (headers : List String) (rows : List (List Cell)) : Prop where
  absent : s.sheet = none → headers = [] ∧ rows = []
  keeps : ∀ o, s.sheet = some o → o.Keeps s.options.autofit headers rows

theorem kept_begun (s : WorkbookSink) (name : String) : (s.begun name).Kept [] [] where
  absent := nofun
  keeps := by
    rintro o ⟨⟩
    exact OpenSheet.keeps_nil rfl rfl

/-- A worksheet begun where none was open has nothing to keep yet. -/
theorem Kept.begun (h : s.Kept headers rows) (ho : s.sheet = none) (name : String) :
    (s.begun name).Kept headers rows := by
  obtain ⟨rfl, rfl⟩ := h.absent ho
  exact s.kept_begun name

/-- **A run of lines is kept track of.** -/
theorem Fed.kept (h : Fed s headers rows t) (hp : s.options.autofit.enabled = true)
    (hs : s.Kept [] []) : t.options = s.options ∧ t.Kept headers rows := by
  -- The worksheet of an accepted line keeps what was accepted before.
  have hopen : ∀ {headers rows} {t t' : WorkbookSink},
      t.options = s.options ∧ t.Kept headers rows →
      (t' = t ∨ t.sheet = none ∧ t' = t.begun t.options.defaultSheet) →
      t'.options = s.options ∧ t'.Kept headers rows := by
    rintro headers rows t t' ⟨hoptions, hkept⟩ (rfl | ⟨hnone, rfl⟩)
    · exact ⟨hoptions, hkept⟩
    · exact ⟨(t.options_begun _).trans hoptions, hkept.begun hnone _⟩
  induction h with
  | start => exact ⟨rfl, hs⟩
  | @header headers headers' rows t u h hr ih =>
    obtain ⟨t', o, heq, ho, ht, rfl⟩ := exists_eq_wrote (c := .header headers') trivial hr
    obtain ⟨hoptions, hkept⟩ := hopen ih heq
    refine ⟨hoptions, nofun, ?_⟩
    rintro _ ⟨⟩
    exact (hkept.keeps o ho).header ht
  | @row headers rows cells t u h hr ih =>
    obtain ⟨t', o, heq, ho, ht, rfl⟩ := exists_eq_wrote (c := .row cells) trivial hr
    obtain ⟨hoptions, hkept⟩ := hopen ih heq
    refine ⟨hoptions, nofun, ?_⟩
    rintro _ ⟨⟩
    exact (hkept.keeps o ho).row (hoptions ▸ hp) ht
  | @refused headers rows c f t u h hw hf hr ih =>
    obtain rfl | ⟨hnone, rfl | rfl⟩ := cases_of_refused hw hf hr
    · exact ih
    · refine ⟨t.options_finish.trans ih.1, fun _ => ih.2.absent hnone, fun o ho => ?_⟩
      exact nomatch t.sheet_finish.symm.trans ho
    · exact hopen ih (.inr ⟨hnone, rfl⟩)

/-! ## Widths are set when a worksheet is finished -/

theorem width?_finish_of_ne {p j : Nat} (h : ∀ o, s.sheet = some o → o.position ≠ p) :
    s.finish.book.width? p j = s.book.width? p j := by
  cases ho : s.sheet with
  | none => rw [finish_of_none ho]
  | some o =>
    rw [finish_of_some ho]
    exact Workbook.width?_update_of_ne (h o ho).symm

/-- **The columns of the open worksheet get their widths** when it is finished. -/
theorem width?_finish_self (ho : s.sheet = some o) (hlt : o.position < s.book.worksheets.length)
    (j : Nat) :
    s.finish.book.width? o.position j =
      if s.options.autofit.enabled then
        (o.widths[j]?.map s.options.autofit.columnWidth).or (s.book.width? o.position j)
      else s.book.width? o.position j := by
  rw [finish_of_some ho]
  split
  · change (s.book.update ..).width? .. = _
    rw [Workbook.width?, Workbook.getElem?_update_self, List.getElem?_eq_getElem hlt,
      Option.map_some, Option.bind_some, Worksheet.width?_setWidths, List.getElem?_map,
      Workbook.width?, List.getElem?_eq_getElem hlt, Option.bind_some]
  · have hbook := congrArg book (s.fitted_nil o.position 0)
    exact congrArg (Workbook.width? · o.position j) hbook

@[simp] theorem width?_stray (s : WorkbookSink) (name : String) (p j : Nat) :
    (s.stray name).book.width? p j = s.finish.book.width? p j :=
  Workbook.width?_add

@[simp] theorem width?_begun (s : WorkbookSink) (name : String) (p j : Nat) :
    (s.begun name).book.width? p j = s.finish.book.width? p j :=
  calc (s.begun name).book.width? p j
    _ = (s.stray name).book.width? p j := Workbook.width?_update fun _ => rfl
    _ = s.finish.book.width? p j := s.width?_stray name p j

theorem width?_fill (texts : List String) (p j : Nat) :
    (s.fill o c texts).width? p j = s.book.width? p j :=
  Workbook.width?_update fun _ => Worksheet.width?_writeRow texts j

theorem width?_wrote (s : WorkbookSink) (o : OpenSheet) (c : Call) (p j : Nat) :
    (s.wrote o c).book.width? p j = s.book.width? p j := by
  rw [wrote, ← width?_fill (s := s) (o := o) (c := c) c.texts]
  dsimp only
  split
  · exact Workbook.width?_update fun _ => rfl
  · rfl

/-- The padding adds up with all widths, and no worksheet has widths but the finished ones; the open
worksheet is the one behind them. -/
structure Unfitted (s : WorkbookSink) : Prop extends s.Sound where
  adds : s.options.autofit.AddsUp
  opened : s.opened = s.report.length
  empty : ∀ o, s.sheet = some o → o.hasHeader = false → o.widths = [] ∧ o.measured = 0
  unset : ∀ p j, s.finished.length ≤ p → s.book.width? p j = none

namespace Unfitted

theorem ready (h : s.Unfitted) : s.Ready :=
  h.toSound.ready fun _ => h.adds

theorem position_eq (h : s.Unfitted) (ho : s.sheet = some o) : o.position = s.finished.length := by
  have hlast := h.aligned.position o ho
  rw [h.opened, report_of_some ho, List.length_append, List.length_singleton] at hlast
  omega

theorem finish (h : s.Unfitted) : s.finish.Unfitted where
  toSound := h.toSound.parted s.parted_finish
  adds := by rw [options_finish]; exact h.adds
  opened := by rw [opened_finish, report_finish, h.opened]
  empty o ho := nomatch s.sheet_finish.symm.trans ho
  unset p j hp := by
    rw [finished_finish] at hp
    rw [width?_finish_of_ne fun o ho hposition => ?_]
    · exact h.unset p j (s.finished_prefix_report.length_le.trans hp)
    · have hlast := h.aligned.position o ho
      have hopened := h.opened
      omega

theorem saved (h : s.Unfitted) : ({ s.finish with closed := true } : WorkbookSink).Unfitted :=
  have hfinish := h.finish
  { h.toSound.saved with
    adds := hfinish.adds
    opened := hfinish.opened
    empty := hfinish.empty
    unset := hfinish.unset }

theorem stray (h : s.Unfitted) (name : String) : (s.stray name).Unfitted where
  toSound := h.toSound.stray name
  adds := h.finish.adds
  opened := h.finish.opened
  empty := h.finish.empty
  unset p j hp := (s.width?_stray name p j).trans (h.finish.unset p j hp)

theorem begun (h : s.Unfitted) (hs : s.closed = false) (name : String) :
    (s.begun name).Unfitted where
  toSound := h.toSound.begun hs name
  adds := h.finish.adds
  opened := by rw [opened_begun, report_begun, List.length_append, h.opened]; rfl
  empty := by
    rintro o ⟨⟩ -
    exact ⟨rfl, rfl⟩
  unset p j hp := (s.width?_begun name p j).trans (h.finish.unset p j hp)

/-- A line on the open worksheet sets no widths. -/
theorem lined {o' : OpenSheet} (h : s.Unfitted) (ho : s.sheet = some o) (hline : Lined s o c t o')
    (hbounded : o'.Bounded) (hempty : o'.hasHeader = false → o'.widths = [] ∧ o'.measured = 0)
    (hwidths : ∀ p j, t.book.width? p j = s.book.width? p j) : t.Unfitted where
  toSound := h.toSound.lined ho hline hbounded
  adds := hline.options ▸ h.adds
  opened := by
    rw [hline.opened, h.opened, report_of_some ho, report_of_some hline.sheet, hline.finished,
      List.length_append, List.length_append]
    rfl
  empty o'' ho'' := by
    obtain rfl := Option.some.inj (hline.sheet.symm.trans ho'')
    exact hempty
  unset p j hp := (hwidths p j).trans (h.unset p j (hline.finished ▸ hp))

end Unfitted

theorem Effect.unfitted (h : Effect c s r) (hs : s.Unfitted) : (left r).Unfitted := by
  induction h with
  | refused | idle => exact hs
  | lost _ _ hr => exact nomatch hr.symm.trans (finishSheet_of_ready hs.ready)
  | stray => exact hs.stray _
  | begun hclosed => exact hs.begun hclosed _
  | within hclosed hw ho hf hr ih => exact ih (hs.begun hclosed _)
  | unsaved => exact hs.finish
  | saved => exact hs.saved
  | @wrote s o hclosed ho ht hfit =>
    refine hs.lined ho (lined_wrote ht) ((hs.bounded o ho).after ht hfit _) (fun hheader => ?_)
      (s.width?_wrote o c)
    cases c with
    | header headers => cases hheader
    | row cells => cases ht.1.symm.trans hheader
    | begin _ | close _ => exact ht.elim
  | @cut s o hclosed ho ht hfit =>
    refine hs.lined ho (lined_cut ht)
      ((hs.bounded o ho).spoiled (fun _ => List.mem_takeWhile_imp) _) (fun hheader => ?_)
      (width?_fill _)
    cases c with
    | header headers => exact hs.empty o ho hheader
    | row cells => cases ht.1.symm.trans hheader
    | begin _ | close _ => exact ht.elim

theorem History.unfitted {es : List Event} (h : History s es t) (hs : s.Unfitted) :
    t.Unfitted := by
  induction h with
  | start => exact hs
  | @call es t c r h hr ih => exact (hr ▸ effect_run c t).unfitted ih

theorem unfitted_make {path : String} {options : SinkOptions} {checked : Bool}
    (h : make path options checked = .ok s) (hadd : options.autofit.AddsUp) : s.Unfitted := by
  have hsound := sound_make h
  obtain rfl := make_eq_ok h
  exact { hsound with adds := hadd, opened := rfl, empty := nofun, unset := fun _ _ _ => rfl }

/-! ## What is finished stays -/

/-- The worksheets finished in one sink are so in another, with the same reports and widths. -/
structure Retains (s t : WorkbookSink) : Prop where
  finished : s.finished <+: t.finished
  widths : ∀ p j, p < s.finished.length → t.book.width? p j = s.book.width? p j

theorem Retains.refl (s : WorkbookSink) : Retains s s :=
  ⟨List.prefix_rfl, fun _ _ _ => rfl⟩

theorem Retains.trans (h : Retains s t) (h' : Retains t u) : Retains s u where
  finished := h.finished.trans h'.finished
  widths p j hp := (h'.widths p j (hp.trans_le h.finished.length_le)).trans (h.widths p j hp)

theorem Unfitted.retains_finish (h : s.Unfitted) : Retains s s.finish where
  finished := by rw [finished_finish]; exact s.finished_prefix_report
  widths p j hp := width?_finish_of_ne fun o ho => (h.position_eq ho).trans_ne hp.ne'

theorem Unfitted.retains_begun (h : s.Unfitted) (name : String) : Retains s (s.begun name) :=
  have hfinish := h.retains_finish
  ⟨hfinish.finished, fun p j hp => (s.width?_begun name p j).trans (hfinish.widths p j hp)⟩

theorem Effect.retains (h : Effect c s r) (hs : s.Unfitted) : Retains s (left r) := by
  induction h with
  | refused | idle => exact .refl _
  | lost _ _ hr => exact nomatch hr.symm.trans (finishSheet_of_ready hs.ready)
  | @stray s name =>
    have hfinish := hs.retains_finish
    exact ⟨hfinish.finished, fun p j hp => (s.width?_stray name p j).trans (hfinish.widths p j hp)⟩
  | begun => exact hs.retains_begun _
  | within hclosed hw ho hf hr ih =>
    exact (hs.retains_begun _).trans (ih (hs.begun hclosed _))
  | unsaved => exact hs.retains_finish
  | saved =>
    have hfinish := hs.retains_finish
    exact ⟨hfinish.finished, hfinish.widths⟩
  | @wrote s o => exact ⟨List.prefix_rfl, fun p j _ => s.width?_wrote o c p j⟩
  | cut => exact ⟨List.prefix_rfl, fun p j _ => width?_fill _ p j⟩

/-- **What is finished stays,** whatever is called later. -/
theorem History.retains {es : List Event} (h : History s es t) (hs : s.Unfitted) :
    Retains s t := by
  induction h with
  | start => exact .refl s
  | @call es t c r h hr ih => exact ih.trans ((hr ▸ effect_run c t).retains (h.unfitted hs))

/-- A call that begins another worksheet, or closes the workbook, finishes the open one, however it
ends. -/
theorem finishes_run (hready : s.Ready) (hs : s.closed = false)
    (hc : (∃ fault, c = .close fault) ∨ ∃ name, c = .begin name) :
    (left (c.run s)).finished = s.report ∧
      ∀ p j, (left (c.run s)).book.width? p j = s.finish.book.width? p j := by
  have hr := finishSheet_of_ready hready
  obtain ⟨fault, rfl⟩ | ⟨name, rfl⟩ := hc
  · rw [Call.run]
    cases fault with
    | some f =>
      rw [close_of_fault hs hr]
      exact ⟨s.finished_finish, fun _ _ => rfl⟩
    | none =>
      rw [close_of_none hs hr]
      exact ⟨s.finished_finish, fun _ _ => rfl⟩
  · rw [Call.run]
    obtain ⟨_, -, hbegin⟩ | ⟨-, hbegin⟩ := beginSheet_cases_of_finish hs hr name
    · rw [run_discard_of_error hbegin]
      exact ⟨s.finished_finish, s.width?_stray name⟩
    · rw [run_discard_of_ok hbegin]
      exact ⟨s.finished_finish, s.width?_begun name⟩

/-! ## The result -/

/-- A policy that a sink was made with has a range of widths. -/
theorem validate_of_make {path : String} {options : SinkOptions} {checked : Bool}
    (h : make path options checked = .ok s) :
    1 ≤ options.autofit.minimum ∧ options.autofit.minimum ≤ options.autofit.maximum ∧
      options.autofit.maximum ≤ 255 := by
  obtain ⟨_, hvalidate, -⟩ := bind_eq_ok_iff.1 h
  rw [AutofitPolicy.validate, AutofitPolicy.widthLimit] at hvalidate
  split_ifs at hvalidate
  omega

/-- **The widths of a finished worksheet** are those that it kept of what was accepted, with the
padding, put between the bounds of the policy. -/
theorem width?_of_finished {path : String} {options : SinkOptions} {checked : Bool}
    {s₀ : WorkbookSink} {es es' : List Event} (hmake : make path options checked = .ok s₀)
    (hadd : options.autofit.AddsUp) (hbefore : History s₀ es s)
    (hempty : ∀ o, s.sheet = some o → o.hasHeader = false) (hfed : Fed s headers rows t)
    (ho : t.sheet = some o) (hc : (∃ fault, c = .close fault) ∨ ∃ name, c = .begin name)
    (hr : c.run t = r) (hlater : History (left r) es' u) (j : Nat) :
    u.book.width? o.position j =
      if options.autofit.enabled then
        headers[j]?.map fun header =>
          let m := (columnTexts j (options.autofit.bodyRows rows)).foldl widest
            (TextWidth.measure header)
          min (max (m + options.autofit.padding) options.autofit.minimum) options.autofit.maximum
      else none := by
  obtain ⟨es₁, ht⟩ := hfed.exists_history hbefore
  have hs := hbefore.unfitted (unfitted_make hmake hadd)
  have hunfitted := ht.unfitted (unfitted_make hmake hadd)
  have hoptions : ∀ {es} {v : WorkbookSink}, History s₀ es v → v.options = options := fun hv => by
    rw [hv.extends.options, make_eq_ok hmake]
  have hclosed : t.closed = false := by
    rw [← Bool.not_eq_true]
    exact fun htrue => nomatch (hunfitted.aligned.closed htrue).symm.trans ho
  have hposition := hunfitted.position_eq ho
  obtain ⟨hfinished, hwidths⟩ := finishes_run hunfitted.ready hclosed hc
  subst hr
  have hlt : o.position < (left (c.run t)).finished.length := by
    rw [hfinished, report_of_some ho, List.length_append, hposition]
    exact Nat.lt_succ_self _
  have hplace : o.position < t.book.worksheets.length :=
    Nat.lt_of_succ_le ((hunfitted.aligned.position o ho).le.trans hunfitted.aligned.opened_le)
  rw [(hlater.retains ((effect_run c t).unfitted hunfitted)).widths _ j hlt, hwidths,
    width?_finish_self ho hplace, hunfitted.unset _ j hposition.ge, hoptions ht, Option.or_none]
  split
  · next henabled =>
    have hkept : s.Kept [] [] :=
      ⟨fun _ => ⟨rfl, rfl⟩, fun o ho =>
        have hnone := hs.empty o ho (hempty o ho)
        OpenSheet.keeps_nil hnone.1 hnone.2⟩
    have hkeeps := (hfed.kept (hoptions hbefore ▸ henabled) hkept).2.keeps o ho
    have hsums : o.widths[j]?.map options.autofit.columnWidth = o.widths[j]?.map fun m =>
        min (max (m + options.autofit.padding) options.autofit.minimum) options.autofit.maximum :=
      Option.map_congr fun m hm => hadd.columnWidth_eq henabled
        ((hunfitted.bounded o ho).widths m (List.mem_of_getElem? hm))
    rw [hsums, hkeeps.getElem?_widths, hoptions ht, Option.map_map]
    rfl
  · rfl

/-! ### A worksheet of which one row counts -/

/-- A new sink whose policy measures one row. -/
def oneRow : WorkbookSink where
  path := "out.xlsx"
  options := { autofit := { bodyMax := some 1, minimum := 1 } }

/-- The worksheet begun in it. -/
def oneRowSheet : OpenSheet :=
  ⟨0, ⟨"T", 0, 0, []⟩, [], [], 0, false⟩

/-- A row of two cells. -/
def twoCells (first second : Option String) : List Cell :=
  [⟨"a", "A", first⟩, ⟨"b", "B", second⟩]

/-- The sink with a header and a row. -/
def oneRowFilled : WorkbookSink :=
  ((oneRow.begun "T").wrote oneRowSheet (.header ["A", "B"])).wrote
    (oneRowSheet.after oneRow.options.autofit (.header ["A", "B"]))
      (.row (twoCells (some "日本") none))

/-- The worksheet with them. -/
def oneRowFull : OpenSheet :=
  ⟨0, ⟨"T", 2, 1, []⟩, ["A", "B"], [4, 1], 1, true⟩

theorem run_beginT : (Call.begin "T").run oneRow = .ok () (oneRow.begun "T") :=
  run_discard_of_ok (beginSheet_of_check_ok rfl rfl rfl)

/-- A header, a row that is accepted, one that is refused, and another one that is accepted. -/
theorem fed_oneRow :
    Fed (oneRow.begun "T") ["A", "B"]
      [twoCells (some "日本") none, twoCells (some "wide text") (some "x")]
      (oneRowFilled.wrote oneRowFull (.row (twoCells (some "wide text") (some "x")))) := by
  have hheader : putHeader ["A", "B"] (oneRow.begun "T") =
      .ok () ((oneRow.begun "T").wrote oneRowSheet (.header ["A", "B"])) :=
    run_of_fits (c := .header ["A", "B"]) rfl rfl ⟨rfl, by decide, by decide⟩ (by decide)
  have hfirst : putRow (twoCells (some "日本") none)
      ((oneRow.begun "T").wrote oneRowSheet (.header ["A", "B"])) = .ok () oneRowFilled :=
    run_of_fits (c := .row (twoCells (some "日本") none)) rfl rfl ⟨rfl, rfl, by decide⟩ (by decide)
  have hnone : ¬ oneRowFull.Takes (.row []) := fun ht => nomatch ht.2.1
  obtain ⟨f, hf, hrefused⟩ := putRow_of_not_takes (s := oneRowFilled) rfl rfl hnone
  have hsecond : putRow (twoCells (some "wide text") (some "x")) oneRowFilled =
      .ok () (oneRowFilled.wrote oneRowFull (.row (twoCells (some "wide text") (some "x")))) :=
    run_of_fits (c := .row (twoCells (some "wide text") (some "x"))) rfl rfl ⟨rfl, rfl, by decide⟩
      (by decide)
  have hfile : f ≠ .file .textTooLong := by
    rintro rfl
    exact hf.elim
  exact .row (.refused (c := .row []) (.row (.header .start hheader) hfirst) trivial hfile hrefused)
    hsecond

/-- **Columns are fitted to their texts.**  After a run of lines on a worksheet without a header, of
which the workbook refused none, each column of the finished worksheet is as wide as its widest text
and the padding, within the bounds of the policy.  The header counts and, if rows do, the texts of
the first rows accepted, up to the number of the policy.  Without fitting no width is set. -/
theorem fitted_widths {path : String} {options : SinkOptions} {checked : Bool}
    {s₀ : WorkbookSink} {es es' : List Event} (hmake : make path options checked = .ok s₀)
    (hadd : options.autofit.AddsUp) (hbefore : History s₀ es s)
    (hempty : ∀ o, s.sheet = some o → o.hasHeader = false) (hfed : Fed s headers rows t)
    (ho : t.sheet = some o) (hc : (∃ fault, c = .close fault) ∨ ∃ name, c = .begin name)
    (hr : c.run t = r) (hlater : History (left r) es' u) :
    (options.autofit.enabled = true → ∀ j,
      (∀ header, headers[j]? = some header →
        ∃ m, IsGreatest (TextWidth.measure ''
            {text | text ∈ header :: columnTexts j (options.autofit.bodyRows rows)}) m ∧
          u.book.width? o.position j = some
            (min (max (m + options.autofit.padding) options.autofit.minimum)
              options.autofit.maximum)) ∧
        (headers.length ≤ j → u.book.width? o.position j = none)) ∧
      (options.autofit.enabled = false → ∀ j, u.book.width? o.position j = none) ∧
      ∀ j width, u.book.width? o.position j = some width → 1 ≤ width ∧ width ≤ 255 := by
  have hwidth := width?_of_finished hmake hadd hbefore hempty hfed ho hc hr hlater
  have hbounds := validate_of_make hmake
  refine ⟨fun henabled j => ⟨fun header hheader => ?_, fun hj => ?_⟩, fun hdisabled j => ?_,
    fun j width hset => ?_⟩
  · refine ⟨_, isGreatest_foldl_widest header _, ?_⟩
    rw [hwidth, if_pos henabled, hheader]
    rfl
  · rw [hwidth, if_pos henabled, List.getElem?_eq_none hj, Option.map_none]
  · rw [hwidth, hdisabled]
    rfl
  · rw [hwidth] at hset
    split at hset
    · obtain ⟨header, -, rfl⟩ := Option.map_eq_some_iff.1 hset
      dsimp only
      omega
    · cases hset

/-- The second row does not count, and two wide characters are as wide as four. -/
theorem fitted_widths_oneRow :
    ∃ t u, Fed (oneRow.begun "T") ["A", "B"]
        [twoCells (some "日本") none, twoCells (some "wide text") (some "x")] t ∧
      (Call.close none).run t = u ∧ (left u).book.width? 0 0 = some 6 := by
  have hmake : make "out.xlsx" oneRow.options = .ok oneRow := rfl
  have hbefore : History oneRow _ (oneRow.begun "T") := History.start.call run_beginT
  refine ⟨_, _, fed_oneRow, rfl, ?_⟩
  obtain ⟨henabled, -⟩ := fitted_widths hmake (by decide) hbefore (by rintro _ ⟨⟩; rfl) fed_oneRow
    rfl (.inl ⟨none, rfl⟩) rfl .start
  obtain ⟨m, hm, hwidth⟩ := (henabled rfl 0).1 "A" rfl
  obtain rfl : m = 4 := hm.unique (isGreatest_foldl_widest "A" ["日本"])
  exact hwidth

end WorkbookSink

end RecordSheet
