import RecordSheet.Proofs.Mapping.Columns
import RecordSheet.Proofs.Mapping.Writer

/-!
# Proofs/Mapping/Stopping — what a sheet has taken when a writer ends

A writer ends at the first record that is not converted or whose row the sheet refuses
(`Writer.Stops`), or after the last one.  In either case the sheet took the headers and the rows of
the records before (`Writer.Wrote`), and nothing of the record that stopped it; which of the two it
is, and where, is decided along the list of records (`accepts_or_stops`).
-/

namespace RecordSheet

variable {ρ σ : Type}

open Outcome

namespace Writer

variable {w : Writer ρ}

/-- **The sheet took the headers and the rows of the records,** and nothing else was done to it. -/
structure Wrote [RowSink σ] (w : Writer ρ) (s : σ) (records : List ρ) (rows : List (List Cell))
    (t : σ) : Prop where
  converted : records.mapM w.convert = .ok rows
  accepted : ∃ s₀, RowSink.writeHeader w.headers s = .ok () s₀ ∧ RowSink.Accepts s₀ rows t

/-- **The writer stops at a record** that is not converted, and leaves the sheet as it is; or at one
whose row the sheet refuses, and leaves the sheet to what it does then. -/
inductive Stops [RowSink σ] (w : Writer ρ) (x : ρ) (s : σ) : Failure → σ → Prop
  | unconverted {f : Failure} (hx : w.convert x = .error f) : Stops w x s f s
  | refused {cells : List Cell} {message : String} {t : σ} (hx : w.convert x = .ok cells)
    (h : RowSink.writeRow cells s = .error message t) : Stops w x s (.sheet message) t

section Sheets

variable [RowSink σ] {s t : σ}

theorem writeRecords_of_stops {x : ρ} {f : Failure} (h : w.Stops x s f t) (report : WriteReport)
    (rest : List ρ) : (w.writeRecords report (x :: rest)).run s = .error f t := by
  cases h with
  | unconverted hx =>
    rw [writeRecords, hx]
    rfl
  | refused hx hrow =>
    rw [writeRecords, hx]
    exact run_bind_of_error (run_adaptExcept_of_error hrow) _

/-- **A run over the records** reaches the end, or stops at the first record that lets it. -/
theorem accepts_or_stops (w : Writer ρ) (records : List ρ) (s : σ) :
    (∃ rows t, List.Forall₂ (fun x cells => w.convert x = .ok cells) records rows ∧
      RowSink.Accepts s rows t) ∨
    ∃ front x back rows t f u, records = front ++ x :: back ∧
      List.Forall₂ (fun x cells => w.convert x = .ok cells) front rows ∧
      RowSink.Accepts s rows t ∧ w.Stops x t f u := by
  induction records generalizing s with
  | nil => exact .inl ⟨[], s, .nil, .nil s⟩
  | cons x rest ih =>
    cases hx : w.convert x with
    | error f => exact .inr ⟨[], x, rest, [], s, f, s, rfl, .nil, .nil s, .unconverted hx⟩
    | ok cells =>
      cases hrow : (RowSink.writeRow cells : EStateM String σ Unit) s with
      | error message t =>
        exact .inr ⟨[], x, rest, [], s, _, t, rfl, .nil, .nil s, .refused hx hrow⟩
      | ok _ t =>
        obtain ⟨rows, u, hrest, hrows⟩ |
            ⟨front, y, back, rows, u, f, v, rfl, hfront, hrows, hstop⟩ :=
          ih t
        · exact .inl ⟨cells :: rows, u, .cons hx hrest, .cons hrow hrows⟩
        · exact .inr ⟨x :: front, y, back, cells :: rows, u, f, v, rfl, .cons hx hfront,
            .cons hrow hrows, hstop⟩

theorem run_write_of_refused {records : List ρ} {message : String}
    (h : RowSink.writeHeader w.headers s = .error message t) :
    (w.write records).run s = .error (.sheet message) t :=
  run_bind_of_error (run_adaptExcept_of_error h) _

theorem Wrote.run_write {records : List ρ} {rows : List (List Cell)}
    (h : w.Wrote s records rows t) :
    (w.write records).run s = .ok ⟨records.length, blankTexts rows, w.warnings⟩ t := by
  obtain ⟨s₀, hheader, hrows⟩ := h.accepted
  exact run_write_of_accepts hheader (mapM_eq_ok_iff.1 h.converted) hrows

/-- **A writer that stops** ends with the failure of the record. -/
theorem Wrote.run_write_of_stops {front : List ρ} {rows : List (List Cell)} {u : σ}
    (h : w.Wrote s front rows u) {x : ρ} {f : Failure} (hx : w.Stops x u f t) (back : List ρ) :
    (w.write (front ++ x :: back)).run s = .error f t := by
  obtain ⟨s₀, hheader, hrows⟩ := h.accepted
  have hrun := writeRecords_append (mapM_eq_ok_iff.1 h.converted) hrows {} (x :: back)
  refine (run_bind_of_ok (run_adaptExcept_of_ok hheader) _).trans (run_bind_of_error ?_ _)
  exact hrun.trans (writeRecords_of_stops hx _ back)

/-- **Every run** is refused its headers, writes all records, or stops at one. -/
theorem write_cases (w : Writer ρ) (records : List ρ) (s : σ) :
    (∃ message t, RowSink.writeHeader w.headers s = .error message t) ∨
    (∃ rows t, w.Wrote s records rows t) ∨
    ∃ front x back rows u f t, records = front ++ x :: back ∧ w.Wrote s front rows u ∧
      w.Stops x u f t := by
  cases hheader : (RowSink.writeHeader w.headers : EStateM String σ Unit) s with
  | error message t => exact .inl ⟨message, t, rfl⟩
  | ok _ s₀ =>
    obtain ⟨rows, t, h, hrows⟩ | ⟨front, x, back, rows, u, f, t, rfl, h, hrows, hstop⟩ :=
      accepts_or_stops w records s₀
    · exact .inr (.inl ⟨rows, t, mapM_eq_ok_iff.2 h, s₀, hheader, hrows⟩)
    · exact .inr (.inr ⟨front, x, back, rows, u, f, t, rfl,
        ⟨mapM_eq_ok_iff.2 h, s₀, hheader, hrows⟩, hstop⟩)

theorem run_write_eq_ok_iff {records : List ρ} {report : WriteReport} :
    (w.write records).run s = .ok report t ↔
      ∃ rows, w.Wrote s records rows t ∧
        report = ⟨records.length, blankTexts rows, w.warnings⟩ := by
  constructor
  · intro h
    obtain ⟨message, u, hrefused⟩ | ⟨rows, u, hwrote⟩ |
      ⟨front, x, back, rows, u, f, v, rfl, hwrote, hstop⟩ := write_cases w records s
    · cases h.symm.trans (run_write_of_refused hrefused)
    · cases h.symm.trans hwrote.run_write
      exact ⟨rows, hwrote, rfl⟩
    · cases h.symm.trans (hwrote.run_write_of_stops hstop back)
  · rintro ⟨rows, hwrote, rfl⟩
    exact hwrote.run_write

theorem run_write_eq_error_iff {records : List ρ} {f : Failure} :
    (w.write records).run s = .error f t ↔
      (∃ message, RowSink.writeHeader w.headers s = .error message t ∧ f = .sheet message) ∨
        ∃ front x back rows u, records = front ++ x :: back ∧ w.Wrote s front rows u ∧
          w.Stops x u f t := by
  constructor
  · intro h
    obtain ⟨message, u, hrefused⟩ | ⟨rows, u, hwrote⟩ |
      ⟨front, x, back, rows, u, f', v, rfl, hwrote, hstop⟩ := write_cases w records s
    · cases h.symm.trans (run_write_of_refused hrefused)
      exact .inl ⟨message, hrefused, rfl⟩
    · cases h.symm.trans hwrote.run_write
    · cases h.symm.trans (hwrote.run_write_of_stops hstop back)
      exact .inr ⟨front, x, back, rows, u, rfl, hwrote, hstop⟩
  · rintro (⟨message, hrefused, rfl⟩ | ⟨front, x, back, rows, u, rfl, hwrote, hstop⟩)
    · exact run_write_of_refused hrefused
    · exact hwrote.run_write_of_stops hstop back

end Sheets

/-- **A new sheet in memory** takes the rows of all records that are converted. -/
theorem wrote_memory {schema : Schema ρ} {registry : Registry} {o : Options}
    (hw : Writer.make schema registry o = .ok w) {records : List ρ} {rows : List (List Cell)}
    (h : records.mapM w.convert = .ok rows) :
    w.Wrote ({} : MemorySheet) records rows ⟨w.headers, rows.map (List.map Cell.text)⟩ := by
  have hschema : w.headers = schema.attributes.map Attribute.header :=
    Schema.map_header_writeColumns (make_eq_ok hw).1
  have hheader := MemorySheet.writeHeader_eq_ok (s := {}) rfl (hschema ▸ schema.headers_nodup)
  refine ⟨h, ⟨w.headers, []⟩, hheader, ?_⟩
  exact MemorySheet.accepts (length_of_convert (mapM_eq_ok_iff.1 h))

/-- **A sheet has taken a front of the records, however the writer ends.**  The writer succeeds
exactly when the sheet took the headers and the rows of all records, and counts these rows and their
blank cells.  It fails exactly when the sheet refuses the headers, or when a record stops it: the
sheet then took the headers and the rows of the records before, and the failure is that of the
record or the sheet's own.  A new sheet in memory refuses nothing, and holds what it took. -/
theorem write_takes_front (w : Writer ρ) (records : List ρ) :
    (∀ (σ : Type) [RowSink σ] (s : σ),
      (∀ report t, (w.write records).run s = .ok report t ↔
        ∃ rows, w.Wrote s records rows t ∧
          report = ⟨records.length, blankTexts rows, w.warnings⟩) ∧
      ∀ f t, (w.write records).run s = .error f t ↔
        (∃ message, RowSink.writeHeader w.headers s = .error message t ∧ f = .sheet message) ∨
          ∃ front x back rows u, records = front ++ x :: back ∧ w.Wrote s front rows u ∧
            w.Stops x u f t) ∧
    ∀ (schema : Schema ρ) (registry : Registry) (o : Options),
      Writer.make schema registry o = .ok w →
      (∀ rows, records.mapM w.convert = .ok rows →
        (w.write records).run ({} : MemorySheet) =
          .ok ⟨records.length, blankTexts rows, w.warnings⟩
            ⟨w.headers, rows.map (List.map Cell.text)⟩) ∧
      ∀ front x back rows f, records = front ++ x :: back → front.mapM w.convert = .ok rows →
        w.convert x = .error f →
        (w.write records).run ({} : MemorySheet) =
          .error f ⟨w.headers, rows.map (List.map Cell.text)⟩ := by
  refine ⟨fun σ _ s => ⟨fun report t => run_write_eq_ok_iff, fun f t => run_write_eq_error_iff⟩,
    fun schema registry o hw => ⟨fun rows hrows => (wrote_memory hw hrows).run_write, ?_⟩⟩
  rintro front x back rows f rfl hrows hx
  exact (wrote_memory hw hrows).run_write_of_stops (.unconverted hx) back

/-- Rows of one whole number, which are the records themselves. -/
def numberRows : Schema Value :=
  ⟨"Row", none, [{ name := "n", type := .scalar (.signed .w32), fieldGet := some id }], [], rfl⟩

/-- The third of four records is no number, and the sheet holds the first two. -/
theorem write_takes_front_number :
    ∃ w, Writer.make numberRows .builtin {} = .ok w ∧
      (w.write [.int 7, .null, .bool true, .int 8]).run ({} : MemorySheet) =
        .error (.conversion "n" "i32" "true" "cannot encode bool value as i32")
          ⟨["n"], [[some "7"], [none]]⟩ := by
  refine ⟨_, rfl, ?_⟩
  exact ((write_takes_front _ _).2 numberRows .builtin {} rfl).2 [.int 7, .null] (.bool true)
    [.int 8]
    [[⟨"n", "n", some "7"⟩], [⟨"n", "n", none⟩]] _ rfl rfl rfl

end Writer

end RecordSheet
