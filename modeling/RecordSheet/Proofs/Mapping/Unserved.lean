import RecordSheet.Proofs.Mapping.Stopping

/-!
# Proofs/Mapping/Unserved — columns of a type that no handler serves

A column is **unserved** when a handler is to convert it and there is none for its type
(`Plan.Unserved`); these are the columns that a report warns about (`mem_warnings_iff`).  A scalar
of such a column has no text, but the brackets around scalars do, and so has the fallback: the cell
is blank only where there is neither (`Unserved.write_eq_none_iff`).
-/

namespace RecordSheet

variable {ρ σ : Type}

open Outcome

namespace Plan

variable {p : Plan} {o : Options} {c : SequenceCodec} {s : Shape} {v : Value} {scope : Scope Value}
  {text : Option String}

/-- **A handler is to convert the cells, and there is none** for the scalars in them. -/
structure Unserved (p : Plan) : Prop where
  uses_handler : p.usesHandler = true
  no_handler : p.handler = none

theorem encode_scalar_of_no_handler (h : p.handler = none) (t : ScalarType) (v : Value) :
    p.encode c (.scalar t) v = .ok none := by
  rw [encode, h, ite_self]

/-- **Without a handler** a sequence is still written in its brackets. -/
theorem encode_empty_iff (h : p.handler = none) (htext : p.encode c s v = .ok text) :
    text.getD "" = "" ↔ s.isContainer = false ∨ v = .null := by
  cases s with
  | scalar t =>
    obtain rfl := Except.ok.inj ((encode_scalar_of_no_handler h t v).symm.trans htext)
    exact iff_of_true rfl (.inl rfl)
  | array s | iterable s =>
    cases v with
    | null =>
      obtain rfl := Except.ok.inj htext
      exact iff_of_true rfl (.inr rfl)
    | seq items =>
      obtain ⟨tokens, -, htext⟩ := bind_eq_ok_iff.1 htext
      obtain rfl := Except.ok.inj htext
      refine iff_of_false (fun hempty => ?_) (by rintro (⟨⟨⟩⟩ | ⟨⟨⟩⟩))
      have henc := SequenceCodec.encloses_serialize (c := c) tokens
      rw [Option.getD_some] at hempty
      rw [hempty] at henc
      cases henc
    | _ => cases htext

namespace Unserved

/-- The text of an unserved cell is what is left of its value without the scalars. -/
theorem ownText_eq (h : p.Unserved) (o : Options) (v : Value) (scope : Scope Value) :
    p.ownText o v scope = p.encode o.codec p.shape v := by
  rw [ownText, route?_of_usesHandler h.uses_handler]
  rfl

/-- **An unserved cell is blank** exactly when it is no sequence and has no fallback. -/
theorem write_eq_none_iff (h : p.Unserved) (htext : p.write o v scope = .ok text) :
    text = none ↔ p.fallbackText? = none ∧ (p.shape.isContainer = false ∨ v = .null) := by
  rw [write_eq_bind, h.ownText_eq] at htext
  obtain ⟨own, hown, htext⟩ := bind_eq_ok_iff.1 htext
  rw [← encode_empty_iff h.no_handler hown, and_comm, ← withFallback_eq_none_iff (c := o.codec),
    htext]
  exact (Except.ok.injEq _ _).symm ▸ Iff.rfl

end Unserved

end Plan

namespace Writer

variable {w : Writer ρ}

/-- **The warnings** are those of the unserved columns. -/
theorem mem_warnings_iff {message : String} :
    message ∈ w.warnings ↔ ∃ column ∈ w.columns, column.plan.Unserved ∧
      message = blankWarning column.plan.descriptor.name := by
  simp only [warnings, List.mem_map, List.mem_filter, Bool.and_eq_true, Option.isNone_iff_eq_none]
  constructor
  · rintro ⟨column, ⟨hmem, hh, hn⟩, rfl⟩
    exact ⟨column, hmem, ⟨hh, hn⟩, rfl⟩
  · rintro ⟨column, hmem, h, rfl⟩
    exact ⟨column, ⟨hmem, h.uses_handler, h.no_handler⟩, rfl⟩

/-- **A column has a cell in the row of a record,** at its own position. -/
theorem exists_cell_of_convert {x : ρ} {cells : List Cell} (hx : w.convert x = .ok cells) {i : Nat}
    {column : WriteColumn ρ} (hi : w.columns[i]? = some column) :
    ∃ cell scope, cells[i]? = some cell ∧
      column.plan.write w.options (column.get x) scope = .ok cell.text := by
  obtain ⟨cell, hcell, h⟩ := exists_getElem?_of_forall₂ (mapM_eq_ok_iff.1 hx) hi
  obtain ⟨text, htext, h⟩ := bind_eq_ok_iff.1 h
  obtain rfl := Except.ok.inj h
  exact ⟨_, _, hcell, htext⟩

/-- **What a warning of a blank column comes to.**  A report warns about the unserved columns and
about no others.  In the row of a record the cell of such a column is blank exactly when it has no
fallback, or a blank one, and its type is scalar or the record's value absent: a sequence leaves its
brackets, and a fallback is written. -/
theorem unserved_blank_iff [RowSink σ] {records : List ρ} {s t : σ} {report : WriteReport}
    (h : (w.write records).run s = .ok report t) :
    ∃ rows, w.Wrote s records rows t ∧
      (∀ message, message ∈ report.warnings ↔ ∃ column ∈ w.columns, column.plan.Unserved ∧
        message = blankWarning column.plan.descriptor.name) ∧
      ∀ (i : Nat) (column : WriteColumn ρ), w.columns[i]? = some column → column.plan.Unserved →
        List.Forall₂ (fun x cells => ∃ cell, cells[i]? = some cell ∧
          (cell.text = none ↔ column.plan.fallbackText? = none ∧
            (column.plan.shape.isContainer = false ∨ column.get x = .null))) records rows := by
  obtain ⟨rows, hwrote, rfl⟩ := run_write_eq_ok_iff.1 h
  refine ⟨rows, hwrote, fun message => mem_warnings_iff, fun i column hi hcolumn => ?_⟩
  refine (mapM_eq_ok_iff.1 hwrote.converted).imp fun x cells hx => ?_
  obtain ⟨cell, scope, hcell, htext⟩ := exists_cell_of_convert hx hi
  exact ⟨cell, hcell, hcolumn.write_eq_none_iff htext⟩

/-- Rows of a value of a class that no handler serves, with a fallback, and of a list of them. -/
def blobRows : Schema Value :=
  ⟨"Row", none,
    [{ name := "blob", type := .scalar (.named "Blob"), fieldGet := some id,
       settings := { fallback := some "raw" } },
     { name := "blobs", type := .list (.scalar (.named "Blob")), fieldGet := some id }], [], rfl⟩

/-- One record is written; the fallback stands in one cell, and brackets in the other. -/
theorem run_write_blobRows :
    ∃ w, Writer.make blobRows .builtin {} = .ok w ∧
      (w.write [.seq [.str "x"]]).run ({} : MemorySheet) =
        .ok ⟨1, 0, [blankWarning "blob", blankWarning "blobs"]⟩
          ⟨["blob", "blobs"], [[some "raw", some "[]"]]⟩ :=
  ⟨_, rfl, (@wrote_memory _ _ blobRows .builtin {} rfl [.seq [.str "x"]]
    [[⟨"blob", "blob", some "raw"⟩, ⟨"blobs", "blobs", some "[]"⟩]] rfl).run_write⟩

/-- A list leaves its brackets. -/
theorem unserved_blank_iff_list :
    ∃ w report t, Writer.make blobRows .builtin {} = .ok w ∧
      (w.write [.seq [.str "x"]]).run ({} : MemorySheet) = .ok report t ∧
      ∃ cells cell, w.convert (.seq [.str "x"]) = .ok cells ∧ cells[1]? = some cell ∧
        cell.text ≠ none := by
  obtain ⟨w, hw, hrun⟩ := run_write_blobRows
  refine ⟨w, _, _, hw, hrun, ?_⟩
  obtain rfl := Except.ok.inj hw
  obtain ⟨rows, hwrote, -, hblank⟩ := unserved_blank_iff hrun
  obtain _ | ⟨⟨cell, hcell, hiff⟩, _⟩ := hblank 1 _ rfl ⟨rfl, rfl⟩
  refine ⟨_, cell, ?_, hcell, fun h => ?_⟩
  · obtain _ | ⟨hx, _⟩ := mapM_eq_ok_iff.1 hwrote.converted
    exact hx
  · obtain ⟨-, ⟨⟨⟩⟩ | ⟨⟨⟩⟩⟩ := hiff.1 h

/-- The report warns that two columns were left blank, and neither is. -/
theorem exists_warned_with_text :
    ∃ (w : Writer Value) (report : WriteReport) (sheet : MemorySheet),
      Writer.make blobRows .builtin {} = .ok w ∧
        (w.write [.seq [.str "x"]]).run ({} : MemorySheet) = .ok report sheet ∧
        report.warnings = [blankWarning "blob", blankWarning "blobs"] ∧
        sheet.rows = [[some "raw", some "[]"]] := by
  obtain ⟨w, hw, hrun⟩ := run_write_blobRows
  exact ⟨w, _, _, hw, hrun, rfl, rfl⟩

end Writer

end RecordSheet
