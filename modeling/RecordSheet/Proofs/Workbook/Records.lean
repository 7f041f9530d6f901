import RecordSheet.Proofs.Mapping.Columns
import RecordSheet.Proofs.Mapping.Writer
import RecordSheet.Proofs.Workbook.Runs

/-!
# Proofs/Workbook/Records — records written to a workbook

A writer and a workbook sink were made for one another without knowing it: the headers of a schema
are distinct, each record has its cells under them, and no text of a cell is empty.  So the open
worksheet takes the headers and then every row, as long as there is room for the rows and columns
and no text is too long.  `Filled` says that the worksheet is a table of some rows; a row more keeps
it so (`Filled.row`), and so does a run of rows (`Filled.accepts`).
-/

namespace RecordSheet

open Outcome

/-! ## Tables -/

/-- The cell of a worksheet that has headers on top and rows of cells below, and nothing else.  An
empty header is a blank cell, as is a cell without a text. -/
def tableCell? (bold : Bool) (headers : List String) (rows : List (List Cell)) :
    Nat → Nat → Option GridCell
  | 0, j => headers[j]?.map (GridCell.ofText bold)
  | i + 1, j => rows[i]?.bind fun cells => cells[j]?.map fun c => ⟨c.text, false⟩

section Table

variable {bold : Bool} {headers : List String} {rows : List (List Cell)} {cells : List Cell}
  {i : Nat}

theorem tableCell?_row (h : rows[i]? = some cells) (j : Nat) :
    tableCell? bold headers rows (i + 1) j = cells[j]?.map fun c => ⟨c.text, false⟩ := by
  rw [tableCell?, h, Option.bind_some]

theorem tableCell?_below (h : rows.length ≤ i) (j : Nat) :
    tableCell? bold headers rows (i + 1) j = none := by
  rw [tableCell?, List.getElem?_eq_none h, Option.bind_none]

/-- A row more is the last one. -/
theorem tableCell?_concat (i j : Nat) :
    tableCell? bold headers (rows ++ [cells]) i j =
      if i = rows.length + 1 then cells[j]?.map fun c => ⟨c.text, false⟩
      else tableCell? bold headers rows i j := by
  split
  · next h =>
    rw [h]
    exact tableCell?_row List.getElem?_concat_length j
  · next h =>
    cases i with
    | zero => rfl
    | succ i =>
      rw [tableCell?, tableCell?]
      obtain hlt | hlt := Nat.lt_or_gt_of_ne fun heq => h (congrArg (· + 1) heq)
      · rw [List.getElem?_append_left hlt]
      · rw [List.getElem?_eq_none (Nat.le_of_lt hlt), List.getElem?_eq_none]
        rw [List.length_append]
        exact hlt

end Table

/-- A cell without an empty text holds what is written of it. -/
theorem GridCell.ofText_getD {bold : Bool} {text : Option String} (h : text ≠ some "") :
    GridCell.ofText bold (text.getD "") = ⟨text, bold⟩ := by
  cases text with
  | none => rfl
  | some s =>
    have hs : s.isEmpty = false := by
      rw [← Bool.not_eq_true, String.isEmpty_iff]
      exact fun hs => h (congrArg some hs)
    rw [Option.getD_some, GridCell.ofText, hs]
    rfl

/-! ## Blank cells -/

/-- The number of blank cells in the rows below the header of a worksheet. -/
def Workbook.blanks (b : Workbook) (position rows columns : Nat) : Nat :=
  ((List.range rows).map fun i =>
    (List.range columns).countP fun j => (b.cell? position (i + 1) j).any (·.text.isNone)).sum

theorem map_range_getElem? {α β : Type} (f : Option α → β) (xs : List α) :
    (List.range xs.length).map (fun i => f xs[i]?) = xs.map fun x => f (some x) := by
  refine List.ext_getElem (by simp) fun i h _ => ?_
  rw [List.length_map, List.length_range] at h
  simp [List.getElem?_eq_getElem h]

theorem countP_range_getElem? {α : Type} (p : α → Bool) (xs : List α) :
    (List.range xs.length).countP (fun i => xs[i]?.any p) = xs.countP p := by
  have h := congrArg (List.countP id) (map_range_getElem? (fun x => x.any p) xs)
  rw [List.countP_map, List.countP_map] at h
  exact h

/-- **The blank cells of a table** are those of its rows. -/
theorem blanks_of_table {b : Workbook} {position : Nat} {bold : Bool} {headers : List String}
    {rows : List (List Cell)} (h : ∀ i j, b.cell? position i j = tableCell? bold headers rows i j)
    (hlength : ∀ cells ∈ rows, cells.length = headers.length) :
    b.blanks position rows.length headers.length = blankTexts rows := by
  have hrows := map_range_getElem?
    (fun row => row.elim 0 fun cells => cells.countP fun c : Cell => c.text.isNone) rows
  rw [Workbook.blanks]
  refine congrArg List.sum (Eq.trans (List.map_congr_left fun i hi => ?_) hrows)
  have hi' := List.getElem?_eq_getElem (List.mem_range.1 hi)
  rw [hi', Option.elim_some, ← hlength _ (List.getElem_mem (List.mem_range.1 hi))]
  refine Eq.trans (List.countP_congr fun j _ => ?_) (countP_range_getElem? _ _)
  rw [h, tableCell?_row hi', Option.any_map]

namespace WorkbookSink

variable {s t : WorkbookSink} {o o' : OpenSheet} {headers : List String} {rows : List (List Cell)}
  {cells : List Cell}

/-! ## A worksheet filled row by row -/

/-- The cells of the worksheet that takes a line. -/
theorem cell?_wrote_of_open {c : Call} (h : o.position < s.book.worksheets.length) (i j : Nat) :
    (s.wrote o c).book.cell? o.position i j =
      if i = c.line o then
        (c.texts[j]?.map (GridCell.ofText (c.bold s.options))).or (s.book.cell? o.position i j)
      else s.book.cell? o.position i j := by
  rw [cell?_wrote]
  split
  · next hi =>
    subst hi
    cases hj : c.texts[j]? with
    | none =>
      rw [cell?_fill_of_outside (.inr (.inr (List.getElem?_eq_none_iff.1 hj)))]
      rfl
    | some text => rw [cell?_fill_of_inside h hj]; rfl
  · next hi => exact cell?_fill_of_outside (.inr (.inl hi))

/-- **From one sink to another the open worksheet was filled** with headers and rows. -/
structure Filled (s : WorkbookSink) (o : OpenSheet) (headers : List String)
    (rows : List (List Cell)) (t : WorkbookSink) (o' : OpenSheet) : Prop where
  closed : t.closed = false
  sheet : t.sheet = some o'
  finished : t.finished = s.finished
  options : t.options = s.options
  position : o'.position = o.position
  name : o'.report.name = o.report.name
  hasHeader : o'.hasHeader = true
  headers_eq : o'.headers = headers
  rows_eq : o'.report.rows = rows.length
  length : t.book.worksheets.length = s.book.worksheets.length
  names : ∀ p, t.book.name? p = s.book.name? p
  cells : ∀ i j,
    t.book.cell? o.position i j = tableCell? s.options.boldHeader headers rows i j
  others : ∀ p i j, p ≠ o.position → t.book.cell? p i j = s.book.cell? p i j

/-- **The headers** of a worksheet that has no cells. -/
theorem filled_header (hs : s.closed = false) (ho : s.sheet = some o)
    (ht : o.Takes (.header headers)) (hrows : o.report.rows = 0)
    (hposition : o.position < s.book.worksheets.length)
    (hblank : ∀ i j, s.book.cell? o.position i j = none) (hfit : ∀ h ∈ headers, Workbook.fits h) :
    (Call.header headers).run s = .ok () (s.wrote o (.header headers)) ∧
      Filled s o headers [] (s.wrote o (.header headers))
        (o.after s.options.autofit (.header headers)) := by
  have hline := lined_wrote (s := s) ht
  refine ⟨run_of_fits hs ho ht hfit, hs, hline.sheet, rfl, hline.options, hline.position,
    hline.name, rfl, rfl, hrows, hline.length, hline.names, fun i j => ?_, fun p i j hp =>
    hline.cells p i j (.inl hp)⟩
  rw [cell?_wrote_of_open hposition, hblank]
  cases i with
  | zero => exact Option.or_none
  | succ i => rfl

/-- **One row more.** -/
theorem Filled.row (h : Filled s o headers rows t o')
    (hposition : o.position < s.book.worksheets.length) (hcells : cells.map Cell.header = headers)
    (hroom : rows.length + 1 < maxRows)
    (hfit : ∀ c ∈ cells, ∀ text, c.text = some text → Workbook.fits text)
    (htext : ∀ c ∈ cells, c.text ≠ some "") :
    ∃ u o'', (Call.row cells).run t = .ok () u ∧ Filled s o headers (rows ++ [cells]) u o'' := by
  have ht : o'.Takes (.row cells) :=
    ⟨h.hasHeader, hcells.trans h.headers_eq.symm, h.rows_eq ▸ hroom⟩
  have hline := lined_wrote (s := t) ht
  have hfit' : ∀ text ∈ (Call.row cells).texts, Workbook.fits text := by
    refine List.forall_mem_map.2 fun c hc => ?_
    cases hc' : c.text with
    | none => decide
    | some text => exact hfit c hc text hc'
  refine ⟨_, _, run_of_fits h.closed h.sheet ht hfit', h.closed, hline.sheet, h.finished,
    hline.options.trans h.options, hline.position.trans h.position, hline.name.trans h.name,
    h.hasHeader, h.headers_eq, ?_, hline.length.trans h.length, fun p =>
    (hline.names p).trans (h.names p), fun i j => ?_, fun p i j hp => ?_⟩
  · rw [List.length_append]
    exact congrArg (· + 1) h.rows_eq
  · have hopen : o'.position < t.book.worksheets.length := by rwa [h.position, h.length]
    have hcell := cell?_wrote_of_open (c := .row cells) hopen i j
    rw [h.position, h.cells] at hcell
    rw [hcell, tableCell?_concat]
    refine if_ctx_congr (by rw [Call.line, h.rows_eq]) (fun hi => ?_) fun _ => rfl
    rw [hi, tableCell?_below le_rfl, Option.or_none, Call.texts, List.getElem?_map, Option.map_map]
    refine Option.map_congr fun c hc => ?_
    exact GridCell.ofText_getD (htext c (List.mem_of_getElem? hc))
  · exact (hline.cells p i j (.inl (h.position ▸ hp))).trans (h.others p i j hp)

/-! ## Runs of rows -/

section Run

variable {ρ : Type} {w : Writer ρ} {records : List ρ} {added : List (List Cell)}

/-- **A run of rows** fills the worksheet. -/
theorem Filled.accepts (h : Filled s o headers rows t o')
    (hposition : o.position < s.book.worksheets.length)
    (hcells : ∀ cells ∈ added, cells.map Cell.header = headers)
    (hroom : rows.length + added.length < maxRows)
    (hfit : ∀ cells ∈ added, ∀ c ∈ cells, ∀ text, c.text = some text → Workbook.fits text)
    (htext : ∀ cells ∈ added, ∀ c ∈ cells, c.text ≠ some "") :
    ∃ u o'', RowSink.Accepts t added u ∧ Filled s o headers (rows ++ added) u o'' := by
  induction added generalizing rows t o' with
  | nil => exact ⟨t, o', .nil t, by rwa [List.append_nil]⟩
  | cons cells added ih =>
    rw [List.forall_mem_cons] at hcells hfit htext
    rw [List.length_cons] at hroom
    obtain ⟨t₁, o₁, hrun, hfilled⟩ := h.row hposition hcells.1 (by omega) hfit.1 htext.1
    have hroom' : (rows ++ [cells]).length + added.length < maxRows := by
      rw [List.length_append, List.length_singleton]
      omega
    obtain ⟨u, o'', hrest, hfilled'⟩ := ih hfilled hcells.2 hroom' hfit.2 htext.2
    refine ⟨u, o'', .cons (run_adaptExcept_of_ok hrun) hrest, ?_⟩
    rwa [List.append_assoc] at hfilled'

/-- **The headers and the records** fill a worksheet that takes the headers and has no cells yet. -/
theorem exists_filled_write (hs : s.closed = false) (ho : s.sheet = some o)
    (ht : o.Takes (.header w.headers)) (hempty : o.report.rows = 0)
    (hposition : o.position < s.book.worksheets.length)
    (hblank : ∀ i j, s.book.cell? o.position i j = none)
    (hrows : List.Forall₂ (fun x cells => w.convert x = .ok cells) records rows)
    (hcount : records.length < maxRows) (hheaders : ∀ h ∈ w.headers, Workbook.fits h)
    (hfit : ∀ cells ∈ rows, ∀ c ∈ cells, ∀ text, c.text = some text → Workbook.fits text) :
    ∃ t o', (w.write records).run s =
        .ok ⟨records.length, blankTexts rows, w.warnings⟩ t ∧
      Filled s o w.headers rows t o' := by
  have hconvert : ∀ cells ∈ rows, ∃ x, w.convert x = .ok cells := fun cells hc => by
    obtain ⟨x, -, hx⟩ := exists_of_forall₂ hrows hc
    exact ⟨x, hx⟩
  obtain ⟨hheader, hfilled⟩ := filled_header hs ho ht hempty hposition hblank hheaders
  obtain ⟨t, o', haccepts, hfilled⟩ := hfilled.accepts hposition
    (fun cells hc => (hconvert cells hc).elim fun _ => Writer.map_header_convert)
    (by rwa [List.length_nil, Nat.zero_add, ← hrows.length_eq]) hfit
    (fun cells hc => (hconvert cells hc).elim fun _ => Writer.text_ne_empty_of_convert)
  have hrun := Writer.run_write_of_accepts (run_adaptExcept_of_ok hheader) hrows haccepts
  exact ⟨t, o', hrun, hfilled⟩

/-- **Records are written to a workbook as they are.**  In a new workbook with a worksheet begun,
the writer of a schema puts the headers of the attributes on top and the cells of each record in a
row below, in order, and nothing else; a cell without a text is blank.  The writer counts as many
rows as the workbook, and as many blank cells as there are. -/
theorem write_workbook {schema : Schema ρ} {registry : Registry} {o : Options}
    (hw : Writer.make schema registry o = .ok w) (hcolumns : schema.attributes.length ≤ maxColumns)
    {path : String} {options : SinkOptions} {checked : Bool} {s₀ s₁ : WorkbookSink}
    {name final : String} (hmake : make path options checked = .ok s₀)
    (hbegin : beginSheet name s₀ = .ok final s₁)
    (hrows : records.mapM w.convert = .ok rows) (hcount : records.length < maxRows)
    (hheaders : ∀ h ∈ w.headers, Workbook.fits h)
    (htexts : ∀ cells ∈ rows, ∀ c ∈ cells, ∀ text, c.text = some text → Workbook.fits text) :
    w.headers = schema.attributes.map Attribute.header ∧
      ∃ report t sheet, (w.write records).run s₁ = .ok report t ∧
        t.book.worksheets.length = 1 ∧ t.book.name? 0 = some final ∧
        (∀ i j, t.book.cell? 0 i j = tableCell? options.boldHeader w.headers rows i j) ∧
        t.report = [sheet] ∧ sheet.name = final ∧ sheet.rows = records.length ∧
        report.rows = sheet.rows ∧ report.blank = t.book.blanks 0 sheet.rows w.headers.length := by
  have hconvert := mapM_eq_ok_iff.1 hrows
  have hschema : w.headers = schema.attributes.map Attribute.header :=
    Schema.map_header_writeColumns (Writer.make_eq_ok hw).1
  obtain rfl := make_eq_ok hmake
  obtain ⟨rfl, rfl⟩ := beginSheet_eq_ok hbegin
  let s : WorkbookSink := { path := path, options := options, checked := checked }
  obtain ⟨t, o', hrun, hfilled⟩ := exists_filled_write (s := s.begun name) rfl rfl
    ⟨rfl, by rwa [hschema, List.length_map], hschema ▸ schema.headers_nodup⟩ rfl Nat.one_pos
    (fun _ _ => rfl) hconvert hcount hheaders htexts
  have hlength : o'.report.rows = records.length := hfilled.rows_eq.trans hconvert.length_eq.symm
  refine ⟨hschema, _, t, o'.report, hrun, hfilled.length, ?_, hfilled.cells, ?_, hfilled.name,
    hlength, hlength.symm, ?_⟩
  · exact (hfilled.names 0).trans (s.name?_begun name)
  · rw [WorkbookSink.report, hfilled.finished, hfilled.sheet]
    rfl
  · rw [hfilled.rows_eq]
    refine (blanks_of_table hfilled.cells fun cells hc => ?_).symm
    obtain ⟨x, -, hx⟩ := exists_of_forall₂ hconvert hc
    rw [← Writer.map_header_convert hx, List.length_map]

/-- A schema of one text that may be absent. -/
def notes : Schema (Option String) where
  name := "Note"
  fallback := none
  attributes := [{
    name := "text"
    type := .scalar .string
    fieldGet := some fun note => (note.map Value.str).getD .null }]
  creators := []
  checked := rfl

/-- A note and an absent one are written below their header. -/
theorem write_workbook_notes :
    ∃ w s₀ s₁ report t, Writer.make notes .builtin {} = .ok w ∧ make "notes.xlsx" {} = .ok s₀ ∧
      beginSheet "Notes" s₀ = .ok "Notes" s₁ ∧ (w.write [some "a", none]).run s₁ = .ok report t ∧
      t.book.cell? 0 0 0 = some ⟨some "text", true⟩ ∧ t.book.cell? 0 1 0 = some ⟨some "a", false⟩ ∧
      t.book.cell? 0 2 0 = some ⟨none, false⟩ ∧ report.rows = 2 := by
  obtain ⟨w, hw, hrows⟩ : ∃ w, Writer.make notes .builtin {} = .ok w ∧
      [some "a", none].mapM w.convert =
        .ok [[⟨"text", "text", some "a"⟩], [⟨"text", "text", none⟩]] := ⟨_, rfl, rfl⟩
  have hheaders : w.headers = ["text"] := Schema.map_header_writeColumns (Writer.make_eq_ok hw).1
  have hmake : make "notes.xlsx" {} = .ok { path := "notes.xlsx", options := {} } := rfl
  have hbegin : beginSheet "Notes" { path := "notes.xlsx", options := {} } = .ok "Notes" _ :=
    beginSheet_of_check_ok rfl rfl rfl
  obtain ⟨-, report, t, sheet, hrun, -, -, hcells, -, -, hcount, hreport, -⟩ :=
    write_workbook hw (by decide) hmake hbegin hrows (by decide) (by rw [hheaders]; decide)
      (by decide)
  rw [hheaders] at hcells
  exact ⟨w, _, _, report, t, hw, hmake, hbegin, hrun, hcells 0 0, hcells 1 0, hcells 2 0,
    hreport.trans hcount⟩

end Run

end WorkbookSink

end RecordSheet
