import RecordSheet.Proofs.Scope
import RecordSheet.Sheet.Memory
import Std.Data.HashMap.Lemmas

/-!
# Proofs/Sheet/Memory — what the sheet in memory takes and gives back

The headers that the sheet takes are the distinct ones (`checkHeaders_eq_ok_iff`), and a row of
cells comes back as a scope of their texts (`get?_rowScope`).
-/

namespace RecordSheet

/-! ## Distinct headers -/

theorem checkHeadersFrom_eq_ok_iff {seen : Std.HashMap String Nat} {column : Nat}
    {headers : List String} :
    checkHeadersFrom seen column headers = .ok () ↔
      headers.Nodup ∧ ∀ h ∈ headers, seen[h]? = none := by
  induction headers generalizing seen column with
  | nil => simp [checkHeadersFrom]
  | cons h hs ih =>
    rw [checkHeadersFrom, List.nodup_cons, List.forall_mem_cons]
    cases hseen : seen[h]? with
    | some first => simp
    | none =>
      have hinsert : ∀ k ∈ hs, (seen.insert h column)[k]? = none ↔ k ≠ h ∧ seen[k]? = none := by
        intro k _
        rw [Std.HashMap.getElem?_insert]
        by_cases hk : h = k <;> simp [hk, Ne.symm]
      rw [ih, forall₂_congr hinsert]
      constructor
      · rintro ⟨hn, hall⟩
        exact ⟨⟨fun hmem => (hall h hmem).1 rfl, hn⟩, rfl, fun k hk => (hall k hk).2⟩
      · rintro ⟨⟨hmem, hn⟩, -, hall⟩
        exact ⟨hn, fun k hk => ⟨fun heq => hmem (heq ▸ hk), hall k hk⟩⟩

/-- **The headers that are accepted** are the distinct ones. -/
theorem checkHeaders_eq_ok_iff {headers : List String} :
    checkHeaders headers = .ok () ↔ headers.Nodup := by
  rw [checkHeaders, checkHeadersFrom_eq_ok_iff, and_iff_left]
  simp

namespace MemorySheet

/-! ## Rows -/

/-- Distinct headers are taken by a sheet without rows. -/
theorem writeHeader_eq_ok {s : MemorySheet} {headers : List String} (hs : s.rows = [])
    (h : headers.Nodup) :
    (RowSink.writeHeader headers : EStateM String MemorySheet Unit) s =
      .ok () { s with headers := headers } := by
  have hput : s.putHeaders headers = .ok { s with headers := headers } := by
    rw [putHeaders, hs, checkHeaders_eq_ok_iff.2 h]
    rfl
  change step _ s = _
  rw [step, hput]

/-- A row with a cell for each header is taken. -/
theorem writeRow_eq_ok {s : MemorySheet} {cells : List Cell}
    (h : cells.length = s.headers.length) :
    (RowSink.writeRow cells : EStateM String MemorySheet Unit) s =
      .ok () { s with rows := s.rows ++ [cells.map Cell.text] } := by
  have hput : s.putRow cells = .ok { s with rows := s.rows ++ [cells.map Cell.text] } := by
    rw [putRow, if_neg (not_not.2 h)]
  change step _ s = _
  rw [step, hput]

/-- A row of cells keyed by their headers. -/
def rowScope (cells : List Cell) : Scope String :=
  .ofList (cells.map fun c => (c.header, c.text.getD ""))

/-- **The rows come back keyed by the headers of their cells.** -/
theorem scopes_of_cells {headers : List String} {rows : List (List Cell)}
    (h : ∀ cells ∈ rows, cells.map Cell.header = headers) :
    (⟨headers, rows.map (List.map Cell.text)⟩ : MemorySheet).scopes = rows.map rowScope := by
  rw [scopes, List.map_map]
  refine List.map_congr_left fun cells hc => ?_
  rw [Function.comp_apply, rowScope, ← h cells hc, List.map_map, List.zip_map']
  rfl

/-- **The text of a cell is found under its header.** -/
theorem get?_rowScope {cells : List Cell} (h : (cells.map Cell.header).Nodup) {c : Cell}
    (hc : c ∈ cells) : (rowScope cells).get? c.header = some (c.text.getD "") :=
  (Scope.get?_ofList_map_eq_some_iff h).2 ⟨c, hc, rfl, rfl⟩

end MemorySheet

end RecordSheet
