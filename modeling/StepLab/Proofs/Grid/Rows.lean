import StepLab.Grid.Basic

/-! # Rows and cells

Cells are numbered row by row, so that a cell is told by its row and its column.  The rows
of a grid, one after the other, are its cells, and each row is as long as the grid is wide. -/

set_option autoImplicit false

namespace StepLab

/-! ## Cells by their row and column -/

namespace Dims

variable (d : Dims)

def row (cell : Nat) : Nat := cell / d.cols

def col (cell : Nat) : Nat := cell % d.cols

theorem row_mul_add_col (cell : Nat) : d.row cell * d.cols + d.col cell = cell := by
  rw [Nat.mul_comm]
  exact Nat.div_add_mod cell d.cols

variable {d}

theorem eq_of_row_eq_of_col_eq {a b : Nat} (rows : d.row a = d.row b)
    (cols : d.col a = d.col b) : a = b := by
  rw [← d.row_mul_add_col a, rows, cols, d.row_mul_add_col b]

theorem row_of_eq {cell r c : Nat} (here : cell = r * d.cols + c) (inside : c < d.cols) :
    d.row cell = r := by
  have positive : 0 < d.cols := Nat.zero_lt_of_lt inside
  rw [row, here, Nat.mul_comm, Nat.mul_add_div positive, Nat.div_eq_of_lt inside, Nat.add_zero]

theorem col_of_eq {cell r c : Nat} (here : cell = r * d.cols + c) (inside : c < d.cols) :
    d.col cell = c := by
  rw [col, here, Nat.mul_comm, Nat.mul_add_mod, Nat.mod_eq_of_lt inside]

theorem mul_add_lt_area {r c : Nat} (rows : r < d.rows) (cols : c < d.cols) :
    r * d.cols + c < d.area := by
  have next : (r + 1) * d.cols ≤ d.area := Nat.mul_le_mul_right d.cols rows
  rw [Nat.add_mul, Nat.one_mul] at next
  omega

theorem row_lt_rows {cell : Nat} (inside : cell < d.area) : d.row cell < d.rows :=
  Nat.div_lt_of_lt_mul (by rwa [Nat.mul_comm])

theorem col_lt_cols {cell : Nat} (inside : cell < d.area) : d.col cell < d.cols :=
  Nat.mod_lt _ (Nat.pos_of_mul_pos_left (Nat.zero_lt_of_lt inside))

end Dims

/-! ## The rows of a grid -/

namespace Grid

theorem row_eq (g : Grid) (r : Nat) :
    g.row r = (g.cells.toList.drop (r * g.dims.cols)).take g.dims.cols := by
  simp [row, Array.toList_extract, List.extract_eq_take_drop]

theorem length_row (g : Grid) {r : Nat} (inside : r < g.dims.rows) :
    (g.row r).length = g.dims.cols := by
  have bound : (r + 1) * g.dims.cols ≤ g.dims.rows * g.dims.cols :=
    Nat.mul_le_mul_right g.dims.cols inside
  rw [Nat.succ_mul] at bound
  rw [row_eq, List.length_take, List.length_drop, Array.length_toList, g.size_cells, Dims.area]
  omega

theorem length_rows (g : Grid) : g.rows.length = g.dims.rows := by
  simp [rows]

theorem getElem?_rows (g : Grid) {r : Nat} (inside : r < g.dims.rows) :
    g.rows[r]? = some (g.row r) := by
  rw [rows, List.getElem?_map, List.getElem?_range inside, Option.map_some]

theorem length_of_mem_rows (g : Grid) {line : List Char} (member : line ∈ g.rows) :
    line.length = g.dims.cols := by
  obtain ⟨r, inside, rfl⟩ := List.mem_map.mp member
  exact g.length_row (List.mem_range.mp inside)

/-- The first rows are the first cells. -/
theorem flatten_take_rows (g : Grid) (n : Nat) :
    ((List.range n).map g.row).flatten = g.cells.toList.take (n * g.dims.cols) := by
  induction n with
  | zero => simp
  | succ n ih =>
      rw [List.range_succ, List.map_append, List.flatten_append, ih, Nat.succ_mul, List.take_add,
        ← row_eq]
      simp

theorem flatten_rows (g : Grid) : g.rows.flatten = g.cells.toList := by
  have whole : g.cells.toList.length ≤ g.dims.rows * g.dims.cols := by
    rw [Array.length_toList]
    exact Nat.le_of_eq g.size_cells
  rw [rows, flatten_take_rows, List.take_of_length_le whole]

theorem eq_of_dims_eq_of_cells_eq {g h : Grid} (dims : g.dims = h.dims)
    (cells : g.cells = h.cells) : g = h := by
  cases g
  cases h
  cases dims
  cases cells
  rfl

theorem eq_of_dims_eq_of_rows_eq {g h : Grid} (dims : g.dims = h.dims)
    (rows : g.rows = h.rows) : g = h := by
  apply eq_of_dims_eq_of_cells_eq dims
  rw [← Array.toList_inj, ← flatten_rows, ← flatten_rows, rows]

end Grid

end StepLab
