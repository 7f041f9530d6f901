import Mathlib.Algebra.Ring.Nat
import RecordSheet.Mapping.Writer
import RecordSheet.Proofs.Mapping.Route
import RecordSheet.Proofs.Outcome
import RecordSheet.Proofs.Sheet.Memory

/-!
# Proofs/Mapping/Writer — what a writer leaves in a sheet

A record whose row the sheet takes is one step of the writer (`writeRecords_cons`), whatever the
sheet is.  After the records whose rows the sheet takes (`RowSink.Accepts`) the writer goes on with
those that are left, and has counted rows and blank cells (`writeRecords_append`).  A sheet in
memory takes every row that has a cell for each header (`MemorySheet.accepts`).
-/

namespace RecordSheet

variable {ρ σ : Type}

/-! ## Blank cells -/

/-- The number of cells without a text. -/
def blankTexts (rows : List (List Cell)) : Nat :=
  (rows.map fun cells => cells.countP fun c => c.text.isNone).sum

theorem blankTexts_cons (cells : List Cell) (rows : List (List Cell)) :
    blankTexts (cells :: rows) = (cells.countP fun c => c.text.isNone) + blankTexts rows :=
  List.sum_cons

/-! ## Rows that a sheet takes -/

/-- **The sheet takes the rows,** one after the other, and nothing else is done to it. -/
inductive RowSink.Accepts [RowSink σ] : σ → List (List Cell) → σ → Prop
  | nil (s : σ) : Accepts s [] s
  | cons {s t u : σ} {cells : List Cell} {rows : List (List Cell)}
    (h : RowSink.writeRow cells s = .ok () t) (hrows : Accepts t rows u) :
    Accepts s (cells :: rows) u

/-- A sheet in memory holds the rows that it took. -/
theorem MemorySheet.accepts {s : MemorySheet} {rows : List (List Cell)}
    (h : ∀ cells ∈ rows, cells.length = s.headers.length) :
    RowSink.Accepts s rows ⟨s.headers, s.rows ++ rows.map (List.map Cell.text)⟩ := by
  induction rows generalizing s with
  | nil =>
    rw [List.map_nil, List.append_nil]
    exact .nil s
  | cons cells rows ih =>
    rw [List.forall_mem_cons] at h
    have hrest := ih (s := ⟨s.headers, s.rows ++ [cells.map Cell.text]⟩) h.2
    rw [List.append_assoc, List.singleton_append] at hrest
    exact .cons (MemorySheet.writeRow_eq_ok h.1) hrest

namespace Writer

variable {w : Writer ρ}

/-- A writer has the columns of its schema. -/
theorem make_eq_ok {s : Schema ρ} {registry : Registry} {o : Options}
    (h : Writer.make s registry o = .ok w) :
    s.writeColumns registry o = .ok w.columns ∧ w.options = o := by
  obtain ⟨-, -, h⟩ := Outcome.bind_eq_ok_iff.1 h
  obtain ⟨columns, hcolumns, h⟩ := Outcome.bind_eq_ok_iff.1 h
  obtain rfl := Except.ok.inj h
  exact ⟨hcolumns, rfl⟩

/-- A cell has the header of its column, and a text that is not empty. -/
theorem cell_eq_ok {x : ρ} {scope : Scope Value} {column : WriteColumn ρ} {c : Cell}
    (h : w.cell x scope column = .ok c) : c.header = column.plan.header ∧ c.text ≠ some "" := by
  obtain ⟨text, htext, h⟩ := Outcome.bind_eq_ok_iff.1 h
  obtain rfl := Except.ok.inj h
  refine ⟨rfl, ?_⟩
  rintro rfl
  exact Plan.write_ne_empty htext rfl

/-- **The cells of a record** stand under the headers. -/
theorem map_header_convert {x : ρ} {cells : List Cell} (h : w.convert x = .ok cells) :
    cells.map Cell.header = w.headers :=
  (Outcome.map_eq_map_of_forall₂ (Outcome.mapM_eq_ok_iff.1 h) fun _ _ hc =>
    (cell_eq_ok hc).1.symm).symm

theorem text_ne_empty_of_convert {x : ρ} {cells : List Cell} (h : w.convert x = .ok cells) :
    ∀ c ∈ cells, c.text ≠ some "" := by
  intro c hc
  obtain ⟨_, -, hcell⟩ := Outcome.exists_of_forall₂ (Outcome.mapM_eq_ok_iff.1 h) hc
  exact (cell_eq_ok hcell).2

/-- **One step:** a record whose row the sheet takes is counted. -/
theorem writeRecords_cons [RowSink σ] {x : ρ} {cells : List Cell} (hx : w.convert x = .ok cells)
    {sheet next : σ} (hrow : RowSink.writeRow cells sheet = .ok () next) (report : WriteReport)
    (rest : List ρ) :
    (w.writeRecords report (x :: rest)).run sheet =
      (w.writeRecords { report with
        rows := report.rows + 1
        blank := report.blank + cells.countP fun c => c.text.isNone } rest).run next := by
  simp only [writeRecords, hx, EStateM.run, bind, EStateM.bind, pure, EStateM.pure,
    EStateM.adaptExcept, hrow]

/-- **A run:** the records whose rows the sheet takes are counted, and the writer goes on with the
others. -/
theorem writeRecords_append [RowSink σ] {front : List ρ} {rows : List (List Cell)}
    (hfront : List.Forall₂ (fun x cells => w.convert x = .ok cells) front rows) {s t : σ}
    (hrows : RowSink.Accepts s rows t) (report : WriteReport) (rest : List ρ) :
    (w.writeRecords report (front ++ rest)).run s =
      (w.writeRecords { report with
        rows := report.rows + front.length
        blank := report.blank + blankTexts rows } rest).run t := by
  induction hfront generalizing s report with
  | nil =>
    cases hrows
    rfl
  | @cons x cells front rows hx _ ih =>
    obtain _ | ⟨hrow, hrows⟩ := hrows
    rw [List.cons_append, writeRecords_cons hx hrow, ih hrows]
    rw [List.length_cons, blankTexts_cons, Nat.add_right_comm, Nat.add_assoc, Nat.add_assoc]

/-- **The whole sheet:** headers, and a row for each record. -/
theorem run_write_of_accepts [RowSink σ] {records : List ρ} {rows : List (List Cell)} {s s₀ t : σ}
    (hheader : RowSink.writeHeader w.headers s = .ok () s₀)
    (h : List.Forall₂ (fun x cells => w.convert x = .ok cells) records rows)
    (hrows : RowSink.Accepts s₀ rows t) :
    (w.write records).run s = .ok ⟨records.length, blankTexts rows, w.warnings⟩ t := by
  have hrun := writeRecords_append h hrows {} []
  rw [List.append_nil, Nat.zero_add, Nat.zero_add] at hrun
  exact (Outcome.run_bind_of_ok (Outcome.run_adaptExcept_of_ok hheader) _).trans
    (Outcome.run_bind_of_ok hrun _)

/-- The rows of records have a cell for each header. -/
theorem length_of_convert {records : List ρ} {rows : List (List Cell)}
    (h : List.Forall₂ (fun x cells => w.convert x = .ok cells) records rows) :
    ∀ cells ∈ rows, cells.length = w.headers.length := by
  intro cells hc
  obtain ⟨x, -, hx⟩ := Outcome.exists_of_forall₂ h hc
  rw [← map_header_convert hx, List.length_map]

/-- **A sheet in memory** has the headers, and a row for each record. -/
theorem write_eq_ok {records : List ρ} {rows : List (List Cell)} (hheaders : w.headers.Nodup)
    (h : List.Forall₂ (fun x cells => w.convert x = .ok cells) records rows) :
    (w.write records).run ({} : MemorySheet) =
      .ok ⟨records.length, blankTexts rows, w.warnings⟩
        ⟨w.headers, rows.map (List.map Cell.text)⟩ :=
  run_write_of_accepts (MemorySheet.writeHeader_eq_ok rfl hheaders) h
    (MemorySheet.accepts (s := ⟨w.headers, []⟩) (length_of_convert h))

end Writer

end RecordSheet
