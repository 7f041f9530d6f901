import RecordSheet.Proofs.Workbook.Landing
import RecordSheet.Proofs.Workbook.SheetName

/-!
# Proofs/Workbook/Naming — which names a sink refuses

The name of a worksheet is made usable before the workbook sees it.  What is left to refuse is a
name that was cut behind an apostrophe: if it is free it is used as it is, and its apostrophe stands
at the end (`clean_and_beginSheet`).  If it is taken, its variants end with a number, and no name is
refused.
-/

namespace RecordSheet.WorkbookSink

open SheetName (clean kept isTaken Proper maxLength illegal)

variable {s : WorkbookSink} {name : String}

/-- A name is made from the text and the names taken, whatever worksheet is open. -/
theorem named_finish (s : WorkbookSink) (name : String) : s.finish.named name = s.named name := by
  rw [named, named, taken_finish, options_finish]

/-- The text comes to a name that is free and ends with an apostrophe. -/
def CutAtApostrophe (s : WorkbookSink) (name : String) : Prop :=
  isTaken s.taken (clean s.options.replacement name) = false ∧
    (kept s.options.replacement name)[maxLength - 1]? = some '\''

instance (name : String) : Decidable (s.CutAtApostrophe name) :=
  inferInstanceAs (Decidable (_ ∧ _))

/-- **A text that was cut behind an apostrophe** makes no name. -/
theorem beginSheet_of_cut (hr : s.options.replacement ∉ illegal) (hs : s.closed = false)
    (hready : s.Ready) (h : s.CutAtApostrophe name) :
    beginSheet name s =
      .error (.file (.sheetName (.apostropheAtEnd (clean s.options.replacement name))))
        (s.stray name) := by
  refine beginSheet_of_check_error hs (finishSheet_of_ready hready) ?_
  rw [named_finish, named, SheetName.check_unique_of_free hr h.1,
    if_pos (SheetName.getLast?_clean_iff.2 h.2)]

/-- The name of any other text is proper, and has no fault. -/
theorem proper_named (hr : s.options.replacement ∉ illegal)
    (htaken : s.taken.entries.length + 2 < 10 ^ 29) (h : ¬ s.CutAtApostrophe name) :
    Proper (s.named name).1 ∧ SheetName.check (s.named name).1 = .ok () := by
  rw [named]
  cases hfree : isTaken s.taken (clean s.options.replacement name) with
  | true => exact SheetName.proper_unique_of_taken hr hfree htaken
  | false =>
    have hlast : ¬ (clean s.options.replacement name).toList.getLast? = some '\'' :=
      fun hlast => h ⟨hfree, SheetName.getLast?_clean_iff.1 hlast⟩
    refine ⟨?_, by rw [SheetName.check_unique_of_free hr hfree, if_neg hlast]⟩
    rw [SheetName.unique, if_neg (by rw [hfree]; exact Bool.false_ne_true)]
    exact SheetName.proper_clean hr

/-- **Clean names and the names that are refused.**  With a legal character for the illegal ones, a
clean name has 1 to 31 characters, all legal, and no apostrophe in front; it has one at its end
exactly when the 31st character of what was kept of the text is one.  A sink that is not closed, and
that can finish its open worksheet, refuses the name when this is so and the clean name is free, and
for that apostrophe; otherwise it begins a worksheet.  (Calls lead to no other sink unless a sum is
too great, by `Sound.ready`; and a variant that is too long would need more names taken than fit any
memory.) -/
theorem clean_and_beginSheet {replacement : Char} (hr : replacement ∉ illegal) (name : String) :
    Proper (clean replacement name) ∧
      ((clean replacement name).toList.getLast? = some '\'' ↔
        (kept replacement name)[maxLength - 1]? = some '\'') ∧
      ∀ s : WorkbookSink, s.closed = false → s.Ready → s.options.replacement = replacement →
        (s.CutAtApostrophe name → ∃ t, beginSheet name s =
          .error (.file (.sheetName (.apostropheAtEnd (clean replacement name)))) t) ∧
        (¬ s.CutAtApostrophe name → s.taken.entries.length + 2 < 10 ^ 29 →
          ∃ final t, beginSheet name s = .ok final t ∧ final.toList.length ≤ maxLength) := by
  refine ⟨SheetName.proper_clean hr, SheetName.getLast?_clean_iff, ?_⟩
  rintro s hs hready rfl
  refine ⟨fun h => ⟨_, beginSheet_of_cut hr hs hready h⟩, fun h htaken => ?_⟩
  obtain ⟨hproper, hcheck⟩ := proper_named hr htaken h
  rw [← named_finish] at hproper hcheck
  exact ⟨_, _, beginSheet_of_check_ok hs (finishSheet_of_ready hready) hcheck, hproper.length_le⟩

/-- A name in apostrophes and with a stroke is made usable. -/
theorem clean_and_beginSheet_quoted :
    '_' ∉ illegal ∧ ∃ final t,
      beginSheet "'Q1/Q2'" { path := "out.xlsx", options := {} } = .ok final t := by
  have hr : '_' ∉ illegal := by decide
  obtain ⟨-, -, hsink⟩ := clean_and_beginSheet hr "'Q1/Q2'"
  have hs : ¬ CutAtApostrophe { path := "out.xlsx", options := {} } "'Q1/Q2'" := by decide +kernel
  obtain ⟨final, t, h, -⟩ :=
    (hsink { path := "out.xlsx", options := {} } rfl (ready_of_none rfl) rfl).2 hs (by decide)
  exact ⟨hr, final, t, h⟩

/-- **A clean name can end with an apostrophe,** and then a new sink refuses it. -/
theorem exists_clean_refused :
    ∃ s, make "out.xlsx" {} = .ok s ∧ s.closed = false ∧ s.options.replacement ∉ illegal ∧
      s.options.replacement ≠ '\'' ∧
      (clean s.options.replacement cutName).toList.getLast? = some '\'' ∧
      ∃ f t, beginSheet cutName s = .error f t :=
  ⟨_, rfl, rfl, by decide, by decide, by decide +kernel, _, _,
    beginSheet_of_check_error rfl rfl rfl⟩

end RecordSheet.WorkbookSink
