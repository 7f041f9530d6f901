import Mathlib.Data.List.Nodup
import RecordSheet.Proofs.Workbook.Events
import RecordSheet.Proofs.Workbook.Naming

/-!
# Proofs/Workbook/Reporting — a report accounts for every worksheet

The report of a sink has one entry for each worksheet opened in its history, with the rows and
columns accepted before the next one is (`History.listed`): a call extends the report by its events
alone (`listed_run`), unless it stops the program.  The names in it differ, in any case of their
letters, and the open worksheet has a place in the workbook and columns that can have a width
(`Sound`).  So nothing stops it from being finished but a sum of widths that is greater than a
machine word, in a program that checks its sums (`Sound.of_stops`); and this loses its entry
(`exists_entry_lost`).
-/

namespace RecordSheet

open Outcome

namespace WorkbookSink

variable {s t u : WorkbookSink} {o o' : OpenSheet} {c : Call}
  {r : EStateM.Result SinkFault WorkbookSink Unit} {name : String} {es : List Event}

/-! ## What a call adds to the report -/

theorem report_stray (s : WorkbookSink) (name : String) : (s.stray name).report = s.report :=
  s.report_finish

theorem report_begun (s : WorkbookSink) (name : String) :
    (s.begun name).report = s.report ++
      [{ name := (s.named name).1
         warnings :=
          if (s.named name).1 = name then [] else [renameWarning name (s.named name).1] }] := by
  rw [← named_finish, ← finished_finish s]
  exact report_of_some (s := s.begun name) rfl

/-- The entries of a report. -/
def listed (s : WorkbookSink) : List Entry :=
  s.report.map Entry.ofReport

theorem listed_of_some (h : s.sheet = some o) :
    s.listed = s.finished.map Entry.ofReport ++ [Entry.ofReport o.report] := by
  rw [listed, report_of_some h, List.map_append, List.map_singleton]

theorem listed_begun (s : WorkbookSink) (name : String) :
    (s.begun name).listed = s.listed ++ [⟨(s.named name).1, 0, 0⟩] := by
  rw [listed, report_begun, List.map_append, List.map_singleton, listed]
  rfl

theorem foldl_outcome_error (c : Call) (f : SinkFault) (t : WorkbookSink) (l : List Entry) :
    (c.outcome (.error f t)).foldl record l = l := by
  cases f <;> rfl

/-- A line that is accepted changes the entry of the open worksheet, and no other line does. -/
theorem Effect.listed_of_some (h : Effect c s r) (hw : c.Writes) (ho : s.sheet = some o) :
    (left r).listed = (c.outcome r).foldl record s.listed := by
  obtain ⟨f, rfl⟩ | ⟨ht, rfl⟩ | ⟨ht, -, rfl⟩ := h.line_cases hw ho
  · rw [foldl_outcome_error, left]
  · have hwrote : (s.wrote o c).sheet = some (o.after s.options.autofit c) := rfl
    rw [left, WorkbookSink.listed_of_some hwrote, WorkbookSink.listed_of_some ho]
    cases c with
    | header headers =>
      exact (amend_concat (fun x => { x with columns := headers.length })
        (s.finished.map Entry.ofReport) (Entry.ofReport o.report)).symm
    | row cells =>
      exact (amend_concat (fun x => { x with rows := x.rows + 1 })
        (s.finished.map Entry.ofReport) (Entry.ofReport o.report)).symm
    | begin _ | close _ => exact hw.elim
  · have hcut : (s.cut o c).sheet = some (o.spoiled s.options.autofit c.fitting c) := rfl
    rw [left, WorkbookSink.listed_of_some hcut, WorkbookSink.listed_of_some ho,
      OpenSheet.report_spoiled]
    rfl

theorem Call.events_of_some (hw : c.Writes) (ho : s.sheet = some o) :
    c.events s r = c.outcome r := by
  have hopened : c.opened? s r = none := by
    cases c with
    | header _ | row _ => rw [Call.opened?, ho]; rfl
    | begin _ | close _ => exact hw.elim
  rw [Call.events, hopened]
  rfl

theorem Call.events_of_none (hw : c.Writes) (ho : s.sheet = none) :
    c.events s r =
      (((left r).sheet.map fun o => o.report.name).map .opened).toList ++ c.outcome r := by
  cases c with
  | header _ | row _ => rw [Call.events, Call.opened?, ho]; rfl
  | begin _ | close _ => exact hw.elim

/-- **A line extends the report by its events.** -/
theorem Effect.listed_line (h : Effect c s r) (hw : c.Writes) :
    (left r).listed = (c.events s r).foldl record s.listed := by
  cases ho : s.sheet with
  | some o => rw [Call.events_of_some hw ho, h.listed_of_some hw ho]
  | none =>
    rw [Call.events_of_none hw ho]
    cases h with
    | refused hf =>
      rw [left, ho, Option.map_none, Option.map_none, Option.toList_none, List.nil_append,
        foldl_outcome_error]
    | lost _ hc _ => exact absurd hw hc
    | @stray _ name f hs hname hf =>
      have hsheet : (s.stray name).sheet = none := s.sheet_finish
      rw [left, hsheet, listed, report_stray]
      rfl
    | within hs hw' ho' hf hr =>
      obtain ⟨o, ho, -, hname⟩ := hr.exists_sheet hw rfl
      rw [hr.listed_of_some hw rfl, ho, Option.map_some, hname, listed_begun, ← named_finish]
      rfl
    | wrote hs ho' | cut hs ho' => exact nomatch ho.symm.trans ho'
    | begun hs hc | idle hs hc | unsaved hs hc | saved hs hc =>
      obtain rfl := hc
      exact hw.elim

theorem listed_begin (hr : s.closed = false → finishSheet s = .ok () s.finish) (name : String) :
    (left ((Call.begin name).run s)).listed =
      ((Call.begin name).events s ((Call.begin name).run s)).foldl record s.listed := by
  rw [Call.events, Call.opened?, Call.run]
  cases hs : s.closed with
  | true =>
    have hbegin := beginSheet_of_closed hs name
    rw [run_discard_of_error hbegin, hbegin]
    rfl
  | false =>
    obtain ⟨_, -, hbegin⟩ | ⟨-, hbegin⟩ := beginSheet_cases_of_finish hs (hr hs) name
    · rw [run_discard_of_error hbegin, hbegin, left, listed, report_stray]
      rfl
    · rw [run_discard_of_ok hbegin, hbegin, left, listed_begun, named_finish]
      rfl

theorem listed_close (hr : s.closed = false → finishSheet s = .ok () s.finish)
    (fault : Option SaveFault) :
    (left ((Call.close fault).run s)).listed =
      ((Call.close fault).events s ((Call.close fault).run s)).foldl record s.listed := by
  rw [Call.run]
  cases hs : s.closed with
  | true =>
    rw [close_of_closed hs]
    rfl
  | false =>
    cases fault with
    | some f =>
      rw [close_of_fault hs (hr hs)]
      exact congrArg (List.map Entry.ofReport) s.report_finish
    | none =>
      rw [close_of_none hs (hr hs)]
      exact congrArg (List.map Entry.ofReport) s.report_finish

/-! ## What every call keeps -/

theorem History.extends (h : History s es t) : Extends s t := by
  induction h with
  | start => exact .refl s
  | @call es t c r h hr ih => exact ih.trans (hr ▸ (effect_run c t).extends)

end WorkbookSink

namespace OpenSheet

open WorkbookSink

variable {o : OpenSheet} {c : WorkbookSink.Call}

/-- The columns of the worksheet are not too many, and none is wider than a text that a cell can
hold. -/
structure Bounded (o : OpenSheet) : Prop where
  narrow : o.widths.length ≤ maxColumns
  widths : ∀ w ∈ o.widths, w ≤ 2 * Workbook.maxTextLength

theorem measure_le_of_fits {text : String} (h : Workbook.fits text) :
    TextWidth.measure text ≤ 2 * Workbook.maxTextLength :=
  (TextWidth.measure_le text).trans (Nat.mul_le_mul_left 2 (of_decide_eq_true h))

/-- A row has a width for each column, and widens it no further than its texts go. -/
theorem bounded_widen {widths : List Nat} {texts : List String} {bound : Nat}
    (hw : ∀ w ∈ widths, w ≤ bound) (ht : ∀ t ∈ texts, TextWidth.measure t ≤ bound) :
    (widen widths texts).length = widths.length ∧ ∀ w ∈ widen widths texts, w ≤ bound := by
  induction widths generalizing texts with
  | nil => cases texts <;> exact ⟨rfl, nofun⟩
  | cons width widths ih =>
    cases texts with
    | nil => exact ⟨rfl, hw⟩
    | cons text texts =>
      rw [List.forall_mem_cons] at hw ht
      obtain ⟨hlength, hrest⟩ := ih hw.2 ht.2
      exact ⟨congrArg (· + 1) hlength, List.forall_mem_cons.2 ⟨max_le hw.1 ht.1, hrest⟩⟩

theorem Bounded.spoiled (h : o.Bounded) {texts : List String}
    (hfit : ∀ t ∈ texts, Workbook.fits t) (p : AutofitPolicy) :
    (o.spoiled p texts c).Bounded := by
  cases c with
  | row cells =>
    obtain ⟨hlength, hwidths⟩ := bounded_widen h.widths fun t ht => measure_le_of_fits (hfit t ht)
    rw [OpenSheet.spoiled]
    constructor
    all_goals
      dsimp only
      split
    · exact hlength.trans_le h.narrow
    · exact h.narrow
    · exact hwidths
    · exact h.widths
  | begin _ | header _ | close _ => exact h

theorem Bounded.after (h : o.Bounded) (ht : o.Takes c) (hfit : ∀ t ∈ c.texts, Workbook.fits t)
    (p : AutofitPolicy) : (o.after p c).Bounded := by
  cases c with
  | header headers =>
    refine ⟨(List.length_map _).trans_le ht.2.1, List.forall_mem_map.2 fun text htext => ?_⟩
    exact measure_le_of_fits (hfit text htext)
  | row cells =>
    have hspoiled := h.spoiled (c := .row cells) hfit p
    exact ⟨hspoiled.narrow, hspoiled.widths⟩
  | begin _ | close _ => exact ht.elim

end OpenSheet

namespace WorkbookSink

variable {s t u : WorkbookSink} {o o' : OpenSheet} {c : Call}
  {r : EStateM.Result SinkFault WorkbookSink Unit} {name : String} {es : List Event}

/-- The names of the worksheets in small letters. -/
def lowerNames (s : WorkbookSink) : List String :=
  s.report.map fun r => Text.lower r.name

/-- The names of the worksheets are taken and differ, and the open worksheet has a place in the
workbook and columns that can have a width. -/
structure Sound (s : WorkbookSink) : Prop where
  taken : ∀ n ∈ s.lowerNames, n ∈ s.taken.names
  distinct : s.lowerNames.Nodup
  aligned : s.Aligned
  bounded : ∀ o, s.sheet = some o → o.Bounded

/-- The name given was free, and is taken then. -/
theorem named_fresh (s : WorkbookSink) (name : String) :
    Text.lower (s.named name).1 ∉ s.taken.names ∧
      (s.named name).2 = SheetName.take s.taken (s.named name).1 :=
  SheetName.unique_fresh _ _

theorem Sound.parted (hs : s.Sound) (h : Parted s t) : t.Sound := by
  have hnames : t.lowerNames <+: s.lowerNames := by
    rw [lowerNames, h.report_eq]
    exact h.finished_prefix.map _
  exact {
    taken := fun n hn => h.taken ▸ hs.taken n (hnames.subset hn)
    distinct := hs.distinct.sublist hnames.sublist
    aligned := hs.aligned.parted h
    bounded := fun o ho => nomatch h.sheet.symm.trans ho }

theorem Sound.saved (h : s.Sound) : ({ s.finish with closed := true } : WorkbookSink).Sound :=
  have hfinish := h.parted s.parted_finish
  { taken := hfinish.taken
    distinct := hfinish.distinct
    aligned := { hfinish.aligned with closed := fun _ => s.sheet_finish }
    bounded := hfinish.bounded }

theorem Sound.stray (h : s.Sound) (name : String) : (s.stray name).Sound where
  taken n hn := by
    have htaken : (s.stray name).taken = (s.named name).2 :=
      congrArg Prod.snd (named_finish s name)
    rw [lowerNames, report_stray] at hn
    rw [htaken, (s.named_fresh name).2]
    exact Scope.mem_names_insert.2 (.inr (h.taken n hn))
  distinct := by rw [lowerNames, report_stray]; exact h.distinct
  aligned := h.aligned.stray name
  bounded := (h.parted s.parted_finish).bounded

theorem Sound.begun (h : s.Sound) (hs : s.closed = false) (name : String) :
    (s.begun name).Sound := by
  have hnames : (s.begun name).lowerNames = s.lowerNames ++ [Text.lower (s.named name).1] := by
    rw [lowerNames, report_begun, List.map_append]
    rfl
  obtain ⟨hfresh, htake⟩ := s.named_fresh name
  refine ⟨fun n hn => ?_, ?_, h.aligned.begun hs name, ?_⟩
  · have htaken : (s.begun name).taken = (s.named name).2 :=
      congrArg Prod.snd (named_finish s name)
    rw [htaken, htake, SheetName.take, Scope.mem_names_insert]
    obtain hn | hn := List.mem_append.1 (hnames ▸ hn)
    · exact .inr (h.taken n hn)
    · exact .inl (List.mem_singleton.1 hn)
  · rw [hnames]
    refine h.distinct.append (List.nodup_singleton _) ?_
    exact List.disjoint_singleton.2 fun hn => hfresh (h.taken _ hn)
  · rintro o ⟨⟩
    exact ⟨Nat.zero_le _, nofun⟩

/-- A line keeps the names. -/
theorem Sound.lined (h : s.Sound) (ho : s.sheet = some o) (hline : Lined s o c t o')
    (hbounded : o'.Bounded) : t.Sound := by
  have hnames : t.lowerNames = s.lowerNames := by
    rw [lowerNames, lowerNames, report_of_some hline.sheet, report_of_some ho, hline.finished,
      List.map_append, List.map_append, List.map_singleton, List.map_singleton, hline.name]
  refine ⟨?_, ?_, h.aligned.lined ho hline, fun o'' ho'' => ?_⟩
  · rw [hnames, hline.taken]
    exact h.taken
  · rw [hnames]
    exact h.distinct
  · obtain rfl := Option.some.inj (hline.sheet.symm.trans ho'')
    exact hbounded

theorem Effect.sound (h : Effect c s r) (hs : s.Sound) : (left r).Sound := by
  induction h with
  | refused => exact hs
  | lost _ _ hr => exact hs.parted (parted_of_error hr)
  | stray => exact hs.stray _
  | begun hclosed => exact hs.begun hclosed _
  | within hclosed hw ho hf hr ih => exact ih (hs.begun hclosed _)
  | wrote _ ho ht hfit =>
    exact hs.lined ho (lined_wrote ht) ((hs.bounded _ ho).after ht hfit _)
  | cut _ ho ht =>
    exact hs.lined ho (lined_cut ht)
      ((hs.bounded _ ho).spoiled (fun _ => List.mem_takeWhile_imp) _)
  | idle => exact hs
  | @unsaved s => exact hs.parted s.parted_finish
  | saved => exact hs.saved

/-- **The sink stays sound** through a history. -/
theorem History.sound (h : History s es t) (hs : s.Sound) : t.Sound := by
  induction h with
  | start => exact hs
  | @call es t c r h hr ih => exact (hr ▸ effect_run c t).sound ih

theorem sound_make {path : String} {options : SinkOptions} {checked : Bool}
    (h : make path options checked = .ok s) : s.Sound := by
  have haligned := aligned_make h
  obtain rfl := make_eq_ok h
  exact ⟨nofun, List.nodup_nil, haligned, nofun⟩

/-- **Only a sum that is too great** stops the open worksheet from being finished: the program
checks its sums, and the padding does not add up with the widths of texts. -/
theorem Sound.of_stops (h : s.Sound) {f : SinkFault} (hf : s.Stops f) :
    f = .overflow ∧ s.checked = true ∧ ¬ s.options.autofit.AddsUp := by
  cases hf with
  | overflow hp ho hs hw hover =>
    refine ⟨rfl, hs, fun hadd => ?_⟩
    have hlt := hadd.lt_wordCount hp ((h.bounded _ ho).widths _ hw)
    exact Nat.not_le.2 hlt (of_decide_eq_true hover)
  | noWorksheet _ ho hlength =>
    have hlast := h.aligned.position _ ho
    have hopened := h.aligned.opened_le
    omega
  | noColumn _ ho hlt => exact absurd (h.bounded _ ho).narrow (Nat.not_le.2 hlt)

theorem Sound.ready (h : s.Sound) (hadd : s.checked = true → s.options.autofit.AddsUp) :
    s.Ready := by
  intro f hf
  obtain ⟨-, hchecked, hnot⟩ := h.of_stops hf
  exact hnot (hadd hchecked)

theorem Sound.of_error (h : s.Sound) {f : SinkFault} (hr : finishSheet s = .error f t) :
    f = .overflow ∧ s.checked = true ∧ ¬ s.options.autofit.AddsUp :=
  h.of_stops (exists_lost_of_error hr).1

/-- A call that does not stop the program can finish the open worksheet. -/
theorem Sound.finishSheet_of_run (h : s.Sound) (hs : s.closed = false) (hc : ¬ c.Writes)
    (hstop : .stopped ∉ c.events s (c.run s)) : finishSheet s = .ok () s.finish := by
  cases hr : finishSheet s with
  | ok _ t => rw [eq_finish_of_ok hr]
  | error f t =>
    obtain ⟨rfl, -⟩ := h.of_error hr
    refine absurd (Call.stopped_mem_events_iff.2 ⟨t, ?_⟩) hstop
    cases c with
    | begin name => exact run_discard_of_error (beginSheet_of_error hs hr name)
    | close fault => exact close_of_error hs hr fault
    | header _ | row _ => exact absurd trivial hc

/-- **A call extends the report by its events,** unless it stops the program. -/
theorem Sound.listed_run (h : s.Sound) (hstop : .stopped ∉ c.events s (c.run s)) :
    (left (c.run s)).listed = (c.events s (c.run s)).foldl record s.listed := by
  cases c with
  | begin name => exact listed_begin (fun hs => h.finishSheet_of_run hs id hstop) name
  | close fault => exact listed_close (fun hs => h.finishSheet_of_run hs id hstop) fault
  | header headers => exact (effect_header s headers).listed_line trivial
  | row cells => exact (effect_row s cells).listed_line trivial

/-- **The report accounts for the history** of a new sink, if nothing stops the program. -/
theorem History.listed (h : History s es t) (hs : s.Sound) (hnew : s.listed = [])
    (hstop : .stopped ∉ es) : t.listed = entries es := by
  induction h with
  | start => exact hnew
  | @call es t c r h hr ih =>
    rw [List.mem_append, not_or] at hstop
    rw [← hr] at hstop ⊢
    rw [(h.sound hs).listed_run hstop.2, ih hstop.1, ← foldl_record, ← foldl_record,
      List.foldl_append]

/-- The program is stopped only where it checks its sums, and the padding does not add up. -/
theorem History.of_stopped (h : History s es t) (hs : s.Sound) (hmem : .stopped ∈ es) :
    s.checked = true ∧ ¬ s.options.autofit.AddsUp := by
  induction h with
  | start => cases hmem
  | @call es t c r h hr ih =>
    obtain hmem | hmem := List.mem_append.1 hmem
    · exact ih hmem
    · obtain ⟨u, rfl⟩ := Call.stopped_mem_events_iff.1 hmem
      obtain ⟨-, hfinish⟩ := (effect_run c t).of_overflow hr
      obtain ⟨-, hchecked, hadd⟩ := (h.sound hs).of_error hfinish
      exact ⟨h.extends.checked ▸ hchecked, h.extends.options ▸ hadd⟩

/-! ## A closed workbook -/

theorem closed_of_close {fault : Option SaveFault} (h : (Call.close fault).run s = .ok () u) :
    u.closed = true := by
  have heffect := effect_close s fault
  rw [h] at heffect
  cases heffect with
  | begun _ hc => cases hc
  | within _ hw => exact hw.elim
  | wrote _ _ ht => exact ht.elim
  | idle hs => exact hs
  | saved => rfl

/-- **A closed sink** refuses every call but another one to close it, which does nothing. -/
theorem run_of_closed (hs : s.closed = true) :
    (∀ fault, (Call.close fault).run s = .ok () s) ∧
      ∀ c : Call, (∀ fault, c ≠ .close fault) → c.run s = .error .closed s := by
  refine ⟨close_of_closed hs, fun c hc => ?_⟩
  cases c with
  | begin name => exact run_discard_of_error (beginSheet_of_closed hs name)
  | header headers => exact putHeader_of_closed hs
  | row cells => exact putRow_of_closed hs
  | close fault => exact absurd rfl (hc fault)

theorem History.of_closed (h : History s es t) (hs : s.closed = true) : t = s := by
  induction h with
  | start => rfl
  | @call es t c r h hr ih =>
    subst ih hr
    obtain ⟨hclose, hothers⟩ := run_of_closed hs
    by_cases hc : ∃ fault, c = .close fault
    · obtain ⟨fault, rfl⟩ := hc
      exact congrArg left (hclose fault)
    · exact congrArg left (hothers c (not_exists.1 hc))

/-! ## The result -/

/-- A new sink of a program that checks its sums, with the greatest padding. -/
def padded : WorkbookSink where
  path := "out.xlsx"
  options := { autofit := { padding := 18446744073709551615 } }
  checked := true

/-- **A sum that is too great loses an entry** in a program that checks its sums: the worksheet is
taken away before its columns are fitted. -/
theorem exists_entry_lost :
    ∃ es t, make "out.xlsx" padded.options true = .ok padded ∧ History padded es t ∧
      es = [.opened "S", .header 1, .stopped] ∧ entries es = [⟨"S", 1, 0⟩] ∧ t.report = [] := by
  have hbegin : (Call.begin "S").run padded = .ok () (padded.begun "S") :=
    run_discard_of_ok (beginSheet_of_check_ok rfl rfl rfl)
  have hheader : (Call.header ["A"]).run (padded.begun "S") = .ok () _ :=
    run_of_fits rfl rfl ⟨rfl, by decide, by decide⟩ (by decide)
  have hopen := (History.start.call hbegin).call hheader
  exact ⟨_, _, rfl, hopen.call (c := .close none) (close_of_error rfl rfl none), rfl, rfl, rfl⟩

end WorkbookSink

end RecordSheet
