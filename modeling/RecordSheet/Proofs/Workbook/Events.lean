import Mathlib.Data.List.Induction
import RecordSheet.Proofs.Workbook.Calls

/-!
# Proofs/Workbook/Events — what a caller sees of a run

A caller sees a worksheet opened, by a call to begin it or by a line that finds none open, and sees
a line accepted, or the program stopped by a sum that is too great (`Event`).  A `History` is a run
of calls with the events seen of them.  Any of them may fail, and the workbook may be saved or not
for reasons outside of the sink.

The entries of events say of each worksheet opened what was accepted before the next one was.  One
more event changes them in one way (`entries_concat`), so they can be kept while the events go by
(`foldl_record`).
-/

namespace RecordSheet.WorkbookSink

open Outcome

variable {s t u : WorkbookSink} {c : Call} {r : EStateM.Result SinkFault WorkbookSink Unit}

/-! ## Events -/

/-- What a caller sees of a call. -/
inductive Event where
  | opened (name : String)
  | header (columns : Nat)
  | row
  /-- A sum is greater than a machine word, and the program checks its sums. -/
  | stopped
deriving DecidableEq

namespace Event

/-- Whether a worksheet is opened. -/
def isOpened : Event → Bool
  | .opened _ => true
  | _ => false

/-- The number of columns of a header. -/
def columns? : Event → Option Nat
  | .header n => some n
  | _ => none

end Event

namespace Call

/-- The worksheet that a call opens: one that is begun, or one that is open after a line and was not
before. -/
def opened? (c : Call) (s : WorkbookSink) (r : EStateM.Result SinkFault WorkbookSink Unit) :
    Option String :=
  match c with
  | .begin name =>
    match beginSheet name s with
    | .ok final _ => some final
    | .error _ _ => none
  | .header _ | .row _ =>
    if s.sheet.isNone then (left r).sheet.map fun o => o.report.name else none
  | .close _ => none

/-- The line that a call writes when it is accepted. -/
def line? : Call → Option Event
  | .header headers => some (.header headers.length)
  | .row _ => some .row
  | _ => none

/-- The event that a call ends with: its line is accepted, or the program stops. -/
def outcome (c : Call) : EStateM.Result SinkFault WorkbookSink Unit → List Event
  | .ok _ _ => c.line?.toList
  | .error .overflow _ => [.stopped]
  | .error _ _ => []

/-- The events of a call that ends so. -/
def events (c : Call) (s : WorkbookSink) (r : EStateM.Result SinkFault WorkbookSink Unit) :
    List Event :=
  ((c.opened? s r).map .opened).toList ++ c.outcome r

theorem stopped_mem_events_iff : Event.stopped ∈ c.events s r ↔ ∃ t, r = .error .overflow t := by
  have hopened : Event.stopped ∉ ((c.opened? s r).map Event.opened).toList := by
    cases c.opened? s r <;> simp
  rw [events, List.mem_append, or_iff_right hopened]
  constructor
  · intro h
    cases r with
    | ok _ t => cases c <;> simp [outcome, line?] at h
    | error f t =>
      cases f with
      | overflow => exact ⟨t, rfl⟩
      | _ => exact absurd h List.not_mem_nil
  · rintro ⟨t, rfl⟩
    exact List.mem_singleton_self _

end Call

/-! ## Histories -/

/-- **A run of calls,** with the events seen of it and the sink it leads to. -/
inductive History (s : WorkbookSink) : List Event → WorkbookSink → Prop where
  | start : History s [] s
  | call {es : List Event} {t : WorkbookSink} {c : Call}
    {r : EStateM.Result SinkFault WorkbookSink Unit} (h : History s es t) (hr : c.run t = r) :
    History s (es ++ c.events t r) (left r)

/-! ## Entries -/

/-- What a report says of a worksheet. -/
structure Entry where
  name : String
  columns : Nat
  rows : Nat
deriving DecidableEq

/-- The entry of a worksheet. -/
def Entry.ofReport (r : SheetReport) : Entry :=
  ⟨r.name, r.columns, r.rows⟩

/-- The events before the next worksheet is opened. -/
def whileOpen (es : List Event) : List Event :=
  es.takeWhile fun e => !e.isOpened

/-- **The entries of events:** one for each worksheet opened, with the columns of its header, if one
was accepted while it was open, and the number of rows that were. -/
def entries : List Event → List Entry
  | [] => []
  | .opened name :: es =>
    ⟨name, ((whileOpen es).filterMap Event.columns?).getLast?.getD 0, (whileOpen es).count .row⟩ ::
      entries es
  | .header _ :: es | .row :: es | .stopped :: es => entries es

/-- Changes the last entry. -/
def amend (f : Entry → Entry) (l : List Entry) : List Entry :=
  l.dropLast ++ (l.getLast?.map f).toList

/-- The entries after one more event. -/
def record (l : List Entry) : Event → List Entry
  | .opened name => l ++ [⟨name, 0, 0⟩]
  | .header n => amend (fun x => { x with columns := n }) l
  | .row => amend (fun x => { x with rows := x.rows + 1 }) l
  | .stopped => l

@[simp] theorem amend_concat (f : Entry → Entry) (l : List Entry) (x : Entry) :
    amend f (l ++ [x]) = l ++ [f x] := by
  rw [amend, List.dropLast_concat, List.getLast?_concat]
  rfl

theorem amend_cons {l : List Entry} (h : l ≠ []) (f : Entry → Entry) (x : Entry) :
    amend f (x :: l) = x :: amend f l := by
  obtain ⟨front, y, rfl⟩ := (List.eq_nil_or_concat' l).resolve_left h
  rw [← List.cons_append, amend_concat, amend_concat, List.cons_append]

theorem record_cons {l : List Entry} (h : l ≠ []) (x : Entry) (e : Event) :
    record (x :: l) e = x :: record l e := by
  cases e with
  | opened name => rfl
  | header n => exact amend_cons h _ x
  | row => exact amend_cons h _ x
  | stopped => rfl

theorem entries_eq_nil {es : List Event} (h : ∀ e ∈ es, e.isOpened = false) : entries es = [] := by
  induction es with
  | nil => rfl
  | cons e es ih =>
    rw [List.forall_mem_cons] at h
    cases e with
    | opened name => cases h.1
    | header n | row | stopped => exact ih h.2

theorem entries_ne_nil {es : List Event} (h : ∃ e ∈ es, e.isOpened = true) : entries es ≠ [] := by
  obtain ⟨e, he, hopened⟩ := h
  induction es with
  | nil => cases he
  | cons x es ih =>
    cases x with
    | opened name => exact List.cons_ne_nil _ _
    | header n | row | stopped =>
      obtain rfl | he := List.mem_cons.1 he
      · cases hopened
      · exact ih he

/-- **One more event** extends the entries. -/
theorem entries_concat (es : List Event) (e : Event) :
    entries (es ++ [e]) = record (entries es) e := by
  induction es with
  | nil => cases e <;> rfl
  | cons x es ih =>
    cases x with
    | header n | row | stopped => exact ih
    | opened name =>
      rw [List.cons_append, entries, entries, ih]
      by_cases h : ∃ e ∈ es, e.isOpened = true
      · -- the event belongs to a later worksheet
        have hlead : whileOpen (es ++ [e]) = whileOpen es := by
          rw [whileOpen, List.takeWhile_append, if_neg]
          · rfl
          · intro hlength
            obtain ⟨y, hy, hopened⟩ := h
            have hall := List.takeWhile_eq_self_iff.1
              ((List.takeWhile_prefix _).eq_of_length hlength) y hy
            rw [hopened] at hall
            cases hall
        rw [record_cons (entries_ne_nil h), hlead]
      · have hclosed : ∀ e ∈ es, e.isOpened = false := fun e he =>
          Bool.not_eq_true _ ▸ fun hopened => h ⟨e, he, hopened⟩
        have hlead : whileOpen es = es := List.takeWhile_eq_self_iff.2 fun y hy => by
          rw [hclosed y hy]
          rfl
        have hmore : whileOpen (es ++ [e]) = es ++ whileOpen [e] :=
          List.takeWhile_append_of_pos fun y hy => by rw [hclosed y hy]; rfl
        rw [entries_eq_nil hclosed, hmore, hlead]
        cases e with
        | opened name' => simp [whileOpen, Event.isOpened, record]
        | header n => simp [whileOpen, Event.isOpened, record, amend, Event.columns?]
        | row => simp [whileOpen, Event.isOpened, record, amend, Event.columns?]
        | stopped => simp [whileOpen, Event.isOpened, record, Event.columns?]

theorem foldl_record (es : List Event) : es.foldl record [] = entries es := by
  induction es using List.reverseRecOn with
  | nil => rfl
  | append_singleton es e ih => rw [List.foldl_concat, ih, entries_concat]

end RecordSheet.WorkbookSink
