import RecordSheet.Workbook.Grid

/-!
# Proofs/Workbook/Grid — what is found in a workbook after a change to it

Two views of a workbook say where its texts are: the name of the worksheet at a position (`name?`)
and the cell of a worksheet at a row and column (`cell?`); a third one shows the width set for a
column (`width?`).  A change to one worksheet is seen there only (`cell?_update_of_ne`), and a row
written from the first column on covers as many cells as it has texts (`cell?_writeRow`).
-/

namespace RecordSheet

/-- The cell that holds a text; an empty text leaves it blank. -/
def GridCell.ofText (bold : Bool) (text : String) : GridCell :=
  ⟨if text.isEmpty then none else some text, bold⟩

namespace Worksheet

/-- A worksheet with the widths of the columns from one on. -/
def setWidths (w : Worksheet) (column : Nat) : List Nat → Worksheet
  | [] => w
  | width :: rest => (w.setWidth column width).setWidths (column + 1) rest

variable {w : Worksheet} {row column : Nat} {bold : Bool}

@[simp] theorem name_writeRow (texts : List String) :
    (w.writeRow row column bold texts).name = w.name := by
  induction texts generalizing w column with
  | nil => rfl
  | cons text rest ih => exact ih

@[simp] theorem name_setWidths (widths : List Nat) : (w.setWidths column widths).name = w.name := by
  induction widths generalizing w column with
  | nil => rfl
  | cons width rest ih => exact ih

@[simp] theorem cell?_setWidths (widths : List Nat) (i j : Nat) :
    (w.setWidths column widths).cell? i j = w.cell? i j := by
  induction widths generalizing w column with
  | nil => rfl
  | cons width rest ih => exact ih

/-- Other rows, and the columns before the first text, stay. -/
theorem cell?_writeRow_of_ne (texts : List String) {i j : Nat} (h : i ≠ row ∨ j < column) :
    (w.writeRow row column bold texts).cell? i j = w.cell? i j := by
  induction texts generalizing w column with
  | nil => rfl
  | cons text rest ih =>
    have hne : (i, j) ≠ (row, column) := fun heq => by
      obtain ⟨rfl, rfl⟩ := Prod.mk.inj heq
      exact h.elim (· rfl) (Nat.lt_irrefl _)
    rw [writeRow, ih (h.imp_right Nat.lt_succ_of_lt), cell?_write, if_neg hne]

theorem cell?_writeRow_add (texts : List String) (k : Nat) :
    (w.writeRow row column bold texts).cell? row (column + k) =
      (texts[k]?.map (GridCell.ofText bold)).or (w.cell? row (column + k)) := by
  induction texts generalizing w column k with
  | nil => rfl
  | cons text rest ih =>
    rw [writeRow]
    cases k with
    | zero =>
      refine (cell?_writeRow_of_ne rest (.inr (Nat.lt_add_one column))).trans ?_
      rw [cell?_write, if_pos rfl]
      rfl
    | succ k =>
      have hne : (row, column + 1 + k) ≠ (row, column) := by simp [Nat.add_assoc]
      rw [← Nat.add_assoc, Nat.add_right_comm, ih, cell?_write, if_neg hne, List.getElem?_cons_succ]

/-- **The texts of a row are found in its columns,** and all other cells stay. -/
theorem cell?_writeRow (w : Worksheet) (row : Nat) (bold : Bool) (texts : List String) (i j : Nat) :
    (w.writeRow row 0 bold texts).cell? i j =
      if i = row then (texts[j]?.map (GridCell.ofText bold)).or (w.cell? i j) else w.cell? i j := by
  split
  · next h =>
    rw [← Nat.zero_add j, h, cell?_writeRow_add, Nat.zero_add]
  · next h => exact cell?_writeRow_of_ne texts (.inl h)

theorem width?_writeRow (texts : List String) (j : Nat) :
    (w.writeRow row column bold texts).width? j = w.width? j := by
  induction texts generalizing w column with
  | nil => rfl
  | cons text rest ih => exact ih

theorem width?_setWidth (i width j : Nat) :
    (w.setWidth i width).width? j = if j = i then some width else w.width? j :=
  Entries.lookup_cons j (i, width) w.widths

/-- The columns before the first width stay. -/
theorem width?_setWidths_of_lt (widths : List Nat) {j : Nat} (h : j < column) :
    (w.setWidths column widths).width? j = w.width? j := by
  induction widths generalizing w column with
  | nil => rfl
  | cons width rest ih =>
    rw [setWidths, ih (Nat.lt_succ_of_lt h), width?_setWidth, if_neg (Nat.ne_of_lt h)]

theorem width?_setWidths_add (widths : List Nat) (k : Nat) :
    (w.setWidths column widths).width? (column + k) = widths[k]?.or (w.width? (column + k)) := by
  induction widths generalizing w column k with
  | nil => rfl
  | cons width rest ih =>
    rw [setWidths]
    cases k with
    | zero =>
      refine (width?_setWidths_of_lt rest (Nat.lt_add_one column)).trans ?_
      rw [width?_setWidth, if_pos rfl]
      rfl
    | succ k =>
      have hne : column + 1 + k ≠ column := by omega
      rw [← Nat.add_assoc, Nat.add_right_comm, ih, width?_setWidth, if_neg hne,
        List.getElem?_cons_succ]

/-- **The widths of the columns are found there.** -/
theorem width?_setWidths (w : Worksheet) (widths : List Nat) (j : Nat) :
    (w.setWidths 0 widths).width? j = widths[j]?.or (w.width? j) := by
  rw [← Nat.zero_add j, width?_setWidths_add, Nat.zero_add]

end Worksheet

namespace Workbook

/-- The name of the worksheet at a position. -/
def name? (b : Workbook) (position : Nat) : Option String :=
  b.worksheets[position]?.map Worksheet.name

/-- The cell at a row and column of the worksheet at a position. -/
def cell? (b : Workbook) (position row column : Nat) : Option GridCell :=
  b.worksheets[position]?.bind fun w => w.cell? row column

/-- The width set for a column of the worksheet at a position. -/
def width? (b : Workbook) (position column : Nat) : Option Nat :=
  b.worksheets[position]?.bind fun w => w.width? column

variable {α : Type} {b : Workbook} {p q i j : Nat} {f : Worksheet → Worksheet}

/-! ## A worksheet added -/

@[simp] theorem length_add : b.add.worksheets.length = b.worksheets.length + 1 := by
  simp [add]

/-- The worksheets before stay as they are. -/
theorem getElem?_add_of_lt (h : p < b.worksheets.length) :
    b.add.worksheets[p]? = b.worksheets[p]? :=
  List.getElem?_append_left h

theorem name?_add_of_lt (h : p < b.worksheets.length) : b.add.name? p = b.name? p :=
  congrArg _ (getElem?_add_of_lt h)

/-- What a new worksheet does not have is not found in the one that is added. -/
theorem bind_add (g : Worksheet → Option α) (hg : ∀ name, g { name := name } = none) :
    b.add.worksheets[p]?.bind g = b.worksheets[p]?.bind g := by
  rcases Nat.lt_trichotomy p b.worksheets.length with h | rfl | h
  · rw [getElem?_add_of_lt h]
  · simp [add, hg]
  · have hadd : b.add.worksheets[p]? = none := List.getElem?_eq_none (by rw [length_add]; omega)
    rw [hadd, List.getElem?_eq_none (by omega)]

@[simp] theorem cell?_add : b.add.cell? p i j = b.cell? p i j :=
  bind_add _ fun _ => rfl

@[simp] theorem width?_add : b.add.width? p j = b.width? p j :=
  bind_add _ fun _ => rfl

/-! ## A worksheet changed -/

@[simp] theorem length_update : (b.update p f).worksheets.length = b.worksheets.length :=
  List.length_modify ..

theorem getElem?_update_self : (b.update p f).worksheets[p]? = b.worksheets[p]?.map f := by
  rw [update, List.getElem?_modify_eq, Option.map_eq_map]

/-- **Other worksheets stay.** -/
theorem getElem?_update_of_ne (h : q ≠ p) : (b.update p f).worksheets[q]? = b.worksheets[q]? :=
  List.getElem?_modify_ne _ _ h.symm

theorem name?_update_of_ne (h : q ≠ p) : (b.update p f).name? q = b.name? q :=
  congrArg _ (getElem?_update_of_ne h)

theorem cell?_update_of_ne (h : q ≠ p) : (b.update p f).cell? q i j = b.cell? q i j := by
  rw [cell?, getElem?_update_of_ne h, cell?]

/-- A change that keeps the name of its worksheet keeps all names. -/
theorem name?_update (hf : ∀ w, (f w).name = w.name) : (b.update p f).name? q = b.name? q := by
  by_cases h : q = p
  · rw [h, name?, getElem?_update_self, Option.map_map, name?]
    exact congrArg (b.worksheets[p]?.map ·) (funext hf)
  · exact name?_update_of_ne h

theorem width?_update_of_ne (h : q ≠ p) : (b.update p f).width? q j = b.width? q j := by
  rw [width?, getElem?_update_of_ne h, width?]

/-- What a change keeps of its worksheet it keeps of the workbook. -/
theorem bind_update (g : Worksheet → Option α) (hf : ∀ w, g (f w) = g w) :
    (b.update p f).worksheets[q]?.bind g = b.worksheets[q]?.bind g := by
  by_cases h : q = p
  · rw [h, getElem?_update_self, Option.bind_map]
    exact congrArg _ (funext hf)
  · rw [getElem?_update_of_ne h]

theorem cell?_update (hf : ∀ w, (f w).cell? i j = w.cell? i j) :
    (b.update p f).cell? q i j = b.cell? q i j :=
  bind_update _ hf

theorem width?_update (hf : ∀ w, (f w).width? j = w.width? j) :
    (b.update p f).width? q j = b.width? q j :=
  bind_update _ hf

end Workbook

end RecordSheet
