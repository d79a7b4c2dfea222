import StepLab.Proofs.Grid.Rows

/-! # Laying rows onto a grid

`ofRows` brings rows of any length to the size of a grid at once: what lies outside is left
out, what is missing is blank.  The loops that write texts and copy rows are compared with
it.  Bringing rows to a size twice is the same as once, unless the first size already cuts
off what the second one would keep.  `entry` is the character of rows in a row and a column,
and the cells of a grid are the entries of its rows. -/

set_option autoImplicit false

namespace StepLab.Grid

/-! ## Lists of a given length -/

theorem getElem?_fit {α : Type} (n : Nat) (pad : α) (xs : List α) (i : Nat)
    (inside : i < n) : (fit n pad xs)[i]? = some (xs[i]?.getD pad) := by
  by_cases present : i < xs.length
  · rw [fit, List.getElem?_append_left (by simp; omega)]
    simp [inside, present]
  · rw [fit, List.getElem?_append_right (by simp; omega)]
    simp [List.getElem?_eq_none (Nat.le_of_not_lt present), List.getElem?_replicate]
    omega

theorem fit_of_length_eq {α : Type} {n : Nat} (pad : α) {xs : List α} (same : xs.length = n) :
    fit n pad xs = xs := by
  subst same
  simp [fit]

theorem fit_fit {α : Type} (n m : Nat) (pad : α) (xs : List α)
    (enough : min xs.length n ≤ m) : fit n pad (fit m pad xs) = fit n pad xs := by
  apply List.ext_getElem?
  intro i
  by_cases inside : i < n
  · rw [getElem?_fit n pad _ i inside, getElem?_fit n pad _ i inside]
    by_cases kept : i < m
    · rw [getElem?_fit m pad xs i kept, Option.getD_some]
    -- what the first length cuts off was missing already
    · have cut : (fit m pad xs)[i]? = none := by
        rw [List.getElem?_eq_none_iff, length_fit]
        omega
      have missing : xs[i]? = none := by
        rw [List.getElem?_eq_none_iff]
        omega
      rw [cut, missing]
  · rw [List.getElem?_eq_none (by rw [length_fit]; omega),
      List.getElem?_eq_none (by rw [length_fit]; omega)]

theorem fit_concat_pad {α : Type} (n : Nat) (pad : α) (xs : List α) :
    fit n pad (xs ++ [pad]) = fit n pad xs := by
  have longer : fit (xs.length + 1) pad xs = xs ++ [pad] := by
    simp [fit, List.take_of_length_le]
  rw [← longer]
  exact fit_fit n (xs.length + 1) pad xs (by omega)

theorem mem_fit {α : Type} {n : Nat} {pad x : α} {xs : List α} (member : x ∈ fit n pad xs) :
    x ∈ xs ∨ x = pad := by
  rcases List.mem_append.mp member with kept | padded
  · exact Or.inl (List.mem_of_mem_take kept)
  · exact Or.inr (List.eq_of_mem_replicate padded)

theorem map_fit {α β : Type} (f : α → β) (n : Nat) (pad : α) (xs : List α) :
    (fit n pad xs).map f = fit n (f pad) (xs.map f) := by
  simp [fit]

/-! ## Rows of a given size -/

def fitRows (d : Dims) (rows : List (List Char)) : List (List Char) :=
  (fit d.rows [] rows).map (fit d.cols blankCell)

theorem length_of_mem_fitRows (d : Dims) (rows : List (List Char))
    (row : List Char) (member : row ∈ fitRows d rows) : row.length = d.cols := by
  obtain ⟨source, _, rfl⟩ := List.mem_map.1 member
  simp

theorem length_flatten_of_length_eq {α : Type} (width : Nat) (xss : List (List α))
    (widths : ∀ xs ∈ xss, xs.length = width) :
    xss.flatten.length = xss.length * width := by
  induction xss with
  | nil => simp
  | cons xs rest ih =>
      have head := widths xs (by simp)
      have tail := ih fun ys member => widths ys (by simp [member])
      simp only [List.flatten_cons, List.length_append, List.length_cons, head, tail,
        Nat.add_mul, Nat.one_mul]
      omega

theorem length_flatten_fitRows (d : Dims) (rows : List (List Char)) :
    (fitRows d rows).flatten.length = d.area := by
  rw [length_flatten_of_length_eq d.cols _ (length_of_mem_fitRows d rows)]
  simp [fitRows, Dims.area]

/-- Lays rows onto a grid of the given dimensions. -/
def ofRows (d : Dims) (rows : List (List Char)) : Grid where
  dims := d
  cells := (fitRows d rows).flatten.toArray
  size_cells := by rw [List.size_toArray, length_flatten_fitRows]

@[simp] theorem dims_ofRows (d : Dims) (rows : List (List Char)) :
    (ofRows d rows).dims = d := rfl

theorem fitRows_rows (g : Grid) : fitRows g.dims g.rows = g.rows := by
  rw [fitRows, fit_of_length_eq [] g.length_rows]
  have same : g.rows.map (fit g.dims.cols blankCell) = g.rows.map id := by
    apply List.map_congr_left
    intro line member
    exact fit_of_length_eq blankCell (g.length_of_mem_rows member)
  rw [same, List.map_id]

theorem fitRows_eq_map_range (d : Dims) (rows : List (List Char)) :
    fitRows d rows = (List.range d.rows).map fun r => fit d.cols blankCell (rows[r]?.getD []) := by
  have picked : fit d.rows [] rows = (List.range d.rows).map fun r => rows[r]?.getD [] := by
    apply List.ext_getElem?
    intro r
    by_cases inside : r < d.rows
    · rw [getElem?_fit d.rows [] rows r inside, List.getElem?_map, List.getElem?_range inside,
        Option.map_some]
    · rw [List.getElem?_eq_none (by rw [length_fit]; omega), List.getElem?_eq_none (by simp; omega)]
  rw [fitRows, picked, List.map_map]
  rfl

theorem fitRows_eq_fit_map (d : Dims) (rows : List (List Char)) :
    fitRows d rows = fit d.rows (fit d.cols blankCell []) (rows.map (fit d.cols blankCell)) :=
  map_fit _ _ _ _

/-- A first size that keeps what the second one keeps makes no difference. -/
theorem fitRows_fitRows (d m : Dims) (rows : List (List Char))
    (tall : min rows.length d.rows ≤ m.rows)
    (wide : ∀ line ∈ rows, min line.length d.cols ≤ m.cols) :
    fitRows d (fitRows m rows) = fitRows d rows := by
  have narrowed : ∀ line ∈ fit m.rows [] rows,
      fit d.cols blankCell (fit m.cols blankCell line) = fit d.cols blankCell line := by
    intro line member
    apply fit_fit
    rcases mem_fit member with given | rfl
    · exact wide line given
    · simp
  calc fitRows d (fitRows m rows)
      = fit d.rows (fit d.cols blankCell []) ((fit m.rows [] rows).map (fit d.cols blankCell)) := by
        rw [fitRows_eq_fit_map, fitRows, List.map_map]
        exact congrArg _ (List.map_congr_left narrowed)
    _ = fitRows d (fit m.rows [] rows) := (fitRows_eq_fit_map d _).symm
    _ = fitRows d rows := by rw [fitRows, fit_fit _ _ _ _ tall, fitRows]

theorem ofRows_congr {d : Dims} {xs ys : List (List Char)} (same : fitRows d xs = fitRows d ys) :
    ofRows d xs = ofRows d ys := by
  have dims : (ofRows d xs).dims = (ofRows d ys).dims := rfl
  apply eq_of_dims_eq_of_cells_eq dims
  show (fitRows d xs).flatten.toArray = (fitRows d ys).flatten.toArray
  rw [same]

theorem rows_ofRows (d : Dims) (rows : List (List Char)) :
    (ofRows d rows).rows = fitRows d rows := by
  have cells : (ofRows d rows).cells.toList = (fitRows d rows).flatten := rfl
  refine List.eq_iff_flatten_eq.mpr ⟨by rw [flatten_rows, cells], ?_⟩
  have left : ∀ line ∈ (ofRows d rows).rows, line.length = d.cols := fun line =>
    (ofRows d rows).length_of_mem_rows
  have right := length_of_mem_fitRows d rows
  rw [List.map_congr_left left, List.map_congr_left right, List.map_const', List.map_const',
    length_rows]
  simp [fitRows]

theorem ofRows_rows (g : Grid) : ofRows g.dims g.rows = g := by
  apply eq_of_dims_eq_of_rows_eq (dims_ofRows g.dims g.rows)
  rw [rows_ofRows, fitRows_rows]

/-! ## Entries -/

/-- The character of some rows in a row and a column. -/
def entry (rows : List (List Char)) (r c : Nat) : Option Char :=
  rows[r]?.bind fun chars => chars[c]?

theorem entry_eq_some_iff {rows : List (List Char)} {r c : Nat} {ch : Char} :
    entry rows r c = some ch ↔ ∃ chars, rows[r]? = some chars ∧ chars[c]? = some ch :=
  Option.bind_eq_some_iff

theorem getElem?_row (g : Grid) (r : Nat) {c : Nat} (inside : c < g.dims.cols) :
    (g.row r)[c]? = g.get? (r * g.dims.cols + c) := by
  rw [row_eq, List.getElem?_take_of_lt inside, List.getElem?_drop, Array.getElem?_toList, get?]

/-- The cell in a row and a column. -/
theorem entry_rows (g : Grid) {r c : Nat} (row : r < g.dims.rows) (col : c < g.dims.cols) :
    entry g.rows r c = g.get? (r * g.dims.cols + c) := by
  rw [entry, getElem?_rows g row, Option.bind_some, getElem?_row g r col]

theorem entry_fitRows (d : Dims) (rows : List (List Char)) {r c : Nat} (row : r < d.rows)
    (col : c < d.cols) : entry (fitRows d rows) r c = some ((entry rows r c).getD blankCell) := by
  rw [entry, fitRows, List.getElem?_map, getElem?_fit _ _ _ _ row, Option.map_some,
    Option.bind_some, getElem?_fit _ _ _ _ col, entry]
  cases rows[r]? with
  | none => rfl
  | some line => rfl

/-- Rows that a grid of the given dimensions has room for. -/
structure Fits (d : Dims) (rows : List (List Char)) : Prop where
  tall : rows.length ≤ d.rows
  wide : ∀ line ∈ rows, line.length ≤ d.cols

theorem Fits.inside_of_entry {d : Dims} {rows : List (List Char)} (fits : Fits d rows) {r c : Nat}
    {ch : Char} (found : entry rows r c = some ch) : r < d.rows ∧ c < d.cols := by
  obtain ⟨line, row, col⟩ := entry_eq_some_iff.mp found
  have narrow := fits.wide line (List.mem_of_getElem? row)
  exact ⟨Nat.lt_of_lt_of_le (List.getElem?_eq_some_iff.mp row).1 fits.tall,
    Nat.lt_of_lt_of_le (List.getElem?_eq_some_iff.mp col).1 narrow⟩

theorem fits_rows (g : Grid) : Fits g.dims g.rows where
  tall := Nat.le_of_eq g.length_rows
  wide _ member := Nat.le_of_eq (g.length_of_mem_rows member)

theorem fits_fitRows (d : Dims) (rows : List (List Char)) : Fits d (fitRows d rows) where
  tall := by simp [fitRows]
  wide line member := Nat.le_of_eq (length_of_mem_fitRows d rows line member)

/-- The cell of a grid that was laid out is the character of the rows there, or blank. -/
theorem get?_ofRows (d : Dims) (rows : List (List Char)) {r c : Nat} (row : r < d.rows)
    (col : c < d.cols) :
    (ofRows d rows).get? (r * d.cols + c) = some ((entry rows r c).getD blankCell) := by
  have cell := entry_rows (ofRows d rows) row col
  rw [dims_ofRows] at cell
  rw [← cell, rows_ofRows, entry_fitRows d rows row col]

/-- A grid is told by its size and the cell in every row and column. -/
theorem eq_ofRows {g : Grid} {d : Dims} {rows : List (List Char)} (dims : g.dims = d)
    (cells : ∀ r < d.rows, ∀ c < d.cols,
      g.get? (r * d.cols + c) = some ((entry rows r c).getD blankCell)) : g = ofRows d rows := by
  subst dims
  apply eq_of_dims_eq_of_cells_eq (dims_ofRows g.dims rows).symm
  apply Array.ext_getElem?
  intro i
  by_cases inside : i < g.dims.area
  · have row := Dims.row_lt_rows inside
    have col := Dims.col_lt_cols inside
    have cell := (cells _ row _ col).trans (get?_ofRows g.dims rows row col).symm
    rwa [Dims.row_mul_add_col] at cell
  · have size := g.size_cells
    have sizeOfRows := (ofRows g.dims rows).size_cells
    rw [dims_ofRows] at sizeOfRows
    rw [Array.getElem?_eq_none (by omega), Array.getElem?_eq_none (by omega)]

end StepLab.Grid
