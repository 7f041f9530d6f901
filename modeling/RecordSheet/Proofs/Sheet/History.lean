import RecordSheet.Proofs.Outcome
import RecordSheet.Proofs.Sheet.Memory

/-!
# Proofs/Sheet/History — the sheet in memory after any calls

A call to the sheet replaces the headers of a sheet without rows, adds a row, or is refused and
leaves the sheet alone (`Effect`).  So whatever calls were made, the headers are distinct and every
row has one text for each (`Rectangular`), the rows are those accepted, in order (`rows_runs`),
under the headers accepted last (`headers_runs`), and keying the rows by the headers loses nothing
(`Scope.perm_names_ofList_zip`, `Scope.get?_ofList_zip`).
-/

namespace RecordSheet

open Outcome

/-! ## Rows keyed by distinct names -/

namespace Scope

variable {α : Type} {names : List String} {values : List α}

theorem get?_ofList_zip_iff (h : names.Nodup) (hlen : names.length = values.length)
    {name : String} {value : α} :
    (ofList (names.zip values)).get? name = some value ↔ (name, value) ∈ names.zip values := by
  refine get?_ofList_eq_some_iff ?_
  rwa [List.map_fst_zip (Nat.le_of_eq hlen)]

/-- **The names of a row** are the ones that it is keyed by. -/
theorem perm_names_ofList_zip (h : names.Nodup) (hlen : names.length = values.length) :
    (ofList (names.zip values)).names.Perm names := by
  refine (List.perm_ext_iff_of_nodup (names_nodup _) h).2 fun name => ?_
  rw [mem_names_iff]
  simp only [get?_ofList_zip_iff h hlen]
  constructor
  · rintro ⟨value, hmem⟩
    exact (List.of_mem_zip hmem).1
  · intro hmem
    rw [← List.map_fst_zip (Nat.le_of_eq hlen)] at hmem
    obtain ⟨⟨_, value⟩, he, rfl⟩ := List.mem_map.1 hmem
    exact ⟨value, he⟩

/-- **Each value of a row** is found under the name at its position. -/
theorem get?_ofList_zip (h : names.Nodup) (hlen : names.length = values.length) {j : Nat}
    {name : String} {value : α} (hname : names[j]? = some name) (hvalue : values[j]? = some value) :
    (ofList (names.zip values)).get? name = some value :=
  (get?_ofList_zip_iff h hlen).2
    (List.mem_of_getElem? (List.getElem?_zip_eq_some.2 ⟨hname, hvalue⟩))

end Scope

namespace MemorySheet

/-! ## Calls -/

/-- A call to a sheet in memory. -/
inductive Call where
  | header (headers : List String)
  | row (cells : List Cell)
deriving DecidableEq, Repr

/-- The cells of a call that adds a row. -/
def Call.row? : Call → Option (List Cell)
  | .header _ => none
  | .row cells => some cells

/-- The headers of a call that replaces them. -/
def Call.headers? : Call → Option (List String)
  | .header headers => some headers
  | .row _ => none

/-- Runs a call. -/
def Call.run : Call → EStateM String MemorySheet Unit
  | .header headers => RowSink.writeHeader headers
  | .row cells => RowSink.writeRow cells

variable {s : MemorySheet} {c : Call}

/-- **What a call can do:** it replaces the headers of a sheet without rows by distinct ones, it
adds a row with a cell for each header, or it is refused and changes nothing. -/
inductive Effect (s : MemorySheet) : Call → EStateM.Result String MemorySheet Unit → Prop where
  | header {headers : List String} : s.rows = [] → headers.Nodup →
      Effect s (.header headers) (.ok () { s with headers := headers })
  | row {cells : List Cell} : cells.length = s.headers.length →
      Effect s (.row cells) (.ok () { s with rows := s.rows ++ [cells.map Cell.text] })
  | refused {c : Call} {message : String} : Effect s c (.error message s)

theorem effect (s : MemorySheet) (c : Call) : s.Effect c (c.run s) := by
  cases c with
  | header headers =>
    change s.Effect _ (step (fun s => s.putHeaders headers) s)
    rw [step, putHeaders]
    split_ifs with hrows
    · exact .refused
    · cases hheaders : checkHeaders headers with
      | error f => exact .refused
      | ok u =>
        have hempty : s.rows = [] := by simpa using hrows
        exact .header hempty (checkHeaders_eq_ok_iff.1 hheaders)
  | row cells =>
    change s.Effect _ (step (fun s => s.putRow cells) s)
    rw [step, putRow]
    split_ifs with hlength
    · exact .refused
    · exact .row (not_not.1 hlength)

/-- What the sheet takes: distinct headers as long as it has no rows, and rows with a cell for each
header. -/
def Takes (s : MemorySheet) : Call → Prop
  | .header headers => s.rows = [] ∧ headers.Nodup
  | .row cells => cells.length = s.headers.length

/-- **A call is accepted** when the sheet takes what it brings. -/
theorem exists_ok_iff_takes (s : MemorySheet) (c : Call) :
    (∃ t, c.run s = .ok () t) ↔ s.Takes c := by
  constructor
  · rintro ⟨t, h⟩
    have heffect := h ▸ s.effect c
    cases heffect with
    | header hrows hheaders => exact ⟨hrows, hheaders⟩
    | row hlength => exact hlength
  · intro h
    cases c with
    | header headers => exact ⟨_, writeHeader_eq_ok h.1 h.2⟩
    | row cells => exact ⟨_, writeRow_eq_ok h⟩

/-- The sheet after a list of calls, of which some may have been refused. -/
def runs (s : MemorySheet) (calls : List Call) : MemorySheet :=
  calls.foldl (fun s c => left (c.run s)) s

/-- The calls that are accepted when they are made one after the other. -/
def accepted (s : MemorySheet) : List Call → List Call
  | [] => []
  | c :: calls =>
    match c.run s with
    | .ok _ t => c :: t.accepted calls
    | .error _ t => t.accepted calls

/-! ## What all calls keep -/

/-- **The sheet is rectangular:** its headers are distinct, and each row has one entry for each. -/
structure Rectangular (s : MemorySheet) : Prop where
  distinct : s.headers.Nodup
  width : ∀ row ∈ s.rows, row.length = s.headers.length

theorem rectangular_empty : ({} : MemorySheet).Rectangular :=
  ⟨.nil, nofun⟩

/-- **One call** keeps the sheet rectangular, and adds its row when it is accepted. -/
theorem Effect.rectangular {r : EStateM.Result String MemorySheet Unit} (h : s.Effect c r)
    (hs : s.Rectangular) : (left r).Rectangular := by
  cases h with
  | header hrows hheaders => exact ⟨hheaders, fun row hrow => by simp [hrows, left] at hrow⟩
  | row hlength =>
    refine ⟨hs.distinct, List.forall_mem_append.2 ⟨hs.width, List.forall_mem_singleton.2 ?_⟩⟩
    rw [List.length_map]
    exact hlength
  | refused => exact hs

/-- **Any calls** keep the sheet rectangular. -/
theorem Rectangular.runs (hs : s.Rectangular) (calls : List Call) :
    (s.runs calls).Rectangular := by
  induction calls generalizing s with
  | nil => exact hs
  | cons c calls ih => exact ih ((s.effect c).rectangular hs)

/-- **The rows are those that were accepted,** in order. -/
theorem rows_runs (s : MemorySheet) (calls : List Call) :
    (s.runs calls).rows =
      s.rows ++ ((s.accepted calls).filterMap Call.row?).map (List.map Cell.text) := by
  induction calls generalizing s with
  | nil => exact (List.append_nil _).symm
  | cons c calls ih =>
    rw [runs, List.foldl_cons, ← runs, ih, accepted]
    cases heffect : c.run s with
    | ok u t =>
      have h := heffect ▸ s.effect c
      cases h with
      | header => rfl
      | row => simp [Call.row?, left]
    | error message t =>
      have h := heffect ▸ s.effect c
      cases h with
      | refused => rfl

/-- **The headers are those that were accepted last.** -/
theorem headers_runs (s : MemorySheet) (calls : List Call) :
    (s.runs calls).headers =
      ((s.accepted calls).filterMap Call.headers?).getLastD s.headers := by
  induction calls generalizing s with
  | nil => rfl
  | cons c calls ih =>
    rw [runs, List.foldl_cons, ← runs, ih, accepted]
    cases heffect : c.run s with
    | ok u t =>
      have h := heffect ▸ s.effect c
      cases h with
      | header => exact List.getLastD_cons.symm
      | row => rfl
    | error message t =>
      have h := heffect ▸ s.effect c
      cases h with
      | refused => rfl

/-- **A sheet is rectangular and read back whole.**  Whatever calls are made to a new sheet and
however they end, its headers are those accepted last, they are distinct, and every row has one
entry for each; a call that fails leaves the sheet as it is; and the accepted rows come back in
order, each as a scope of exactly the headers with the text of the cell at each header's position,
or the empty text where that cell is blank. -/
theorem runs_read_back (calls : List Call) :
    let s := runs {} calls
    (s.headers = ((accepted {} calls).filterMap Call.headers?).getLastD [] ∧ s.headers.Nodup ∧
        ∀ row ∈ s.rows, row.length = s.headers.length) ∧
      (∀ (c : Call) (message : String) (t : MemorySheet), c.run s = .error message t → t = s) ∧
      List.Forall₂
        (fun cells scope => scope.names.Perm s.headers ∧
          cells.length = s.headers.length ∧
          ∀ (j : Nat) (header : String) (cell : Cell), s.headers[j]? = some header →
            cells[j]? = some cell → scope.get? header = some (cell.text.getD ""))
        ((accepted {} calls).filterMap Call.row?) s.scopes := by
  intro s
  have hs : s.Rectangular := rectangular_empty.runs calls
  have hrows : s.rows = ((accepted {} calls).filterMap Call.row?).map (List.map Cell.text) :=
    rows_runs {} calls
  refine ⟨⟨headers_runs {} calls, hs.distinct, hs.width⟩, fun c message t h => ?_, ?_⟩
  · have heffect := h ▸ s.effect c
    cases heffect with
    | refused => rfl
  · rw [scopes, hrows, List.map_map, List.forall₂_map_right_iff, List.forall₂_same]
    intro cells hcells
    have hlength : cells.length = s.headers.length := by
      rw [← hs.width (cells.map Cell.text) (hrows ▸ List.mem_map_of_mem hcells), List.length_map]
    have hzip : s.headers.length = ((cells.map Cell.text).map fun text => text.getD "").length := by
      rw [List.length_map, List.length_map, hlength]
    refine ⟨Scope.perm_names_ofList_zip hs.distinct hzip, hlength, fun j header cell hj hcell => ?_⟩
    refine Scope.get?_ofList_zip hs.distinct hzip hj ?_
    rw [List.getElem?_map, List.getElem?_map, hcell]
    rfl

/-- A row that is too short, one with a blank cell, and headers that come too late. -/
theorem runs_read_back_late :
    let cells : List Cell := [⟨"a", "A", some "1"⟩, ⟨"b", "B", none⟩]
    let calls := [.header ["A", "B"], .row [⟨"a", "A", some "1"⟩], .row cells, .header ["C"]]
    accepted {} calls = [.header ["A", "B"], .row cells] ∧
      (runs {} calls).headers = ["A", "B"] ∧
      ∃ scope, (runs {} calls).scopes = [scope] ∧ scope.get? "A" = some "1" ∧
        scope.get? "B" = some "" := by
  intro cells calls
  have hheader : (Call.header ["A", "B"]).run {} = .ok () ⟨["A", "B"], []⟩ :=
    writeHeader_eq_ok rfl (by decide)
  have haccepted : accepted {} calls = [.header ["A", "B"], .row cells] := by
    rw [accepted, hheader]
    rfl
  obtain ⟨⟨hheaders, -⟩, -, hscopes⟩ := runs_read_back calls
  rw [haccepted] at hheaders hscopes
  obtain ⟨scope, _, ⟨-, -, hget⟩, hnil, hone⟩ := List.forall₂_cons_left_iff.1 hscopes
  obtain rfl := List.forall₂_nil_left_iff.1 hnil
  exact ⟨haccepted, hheaders, scope, hone, hget 0 "A" _ (by rw [hheaders]; rfl) rfl,
    hget 1 "B" _ (by rw [hheaders]; rfl) rfl⟩

end MemorySheet

end RecordSheet
