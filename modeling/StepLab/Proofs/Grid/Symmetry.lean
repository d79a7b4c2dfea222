import StepLab.Proofs.Grid.Marks
import StepLab.Proofs.Grid.Torus

/-! # Shifted and transposed grids

A cell may be given by any row and column, counted around the torus.  In these coordinates a
move adds the shift of its direction, a shift of the whole grid adds another one, and a
transposition exchanges the two; so a move of a shifted cell is the shifted move, and a move
of a transposed cell is the transposed move in the transposed direction.

A `Symmetry` is what such a change of a grid comes to for whoever walks on it: a
correspondence of cells that hold the same characters, and of velocities, such that moves
correspond. -/

set_option autoImplicit false

namespace StepLab

namespace Direction

/-- The direction with rows and columns exchanged. -/
def transposed : Direction → Direction
  | up => left
  | left => up
  | right => down
  | down => right

theorem rowShift_transposed (direction : Direction) :
    direction.transposed.rowShift = direction.colShift := by
  cases direction <;> rfl

theorem colShift_transposed (direction : Direction) :
    direction.transposed.colShift = direction.rowShift := by
  cases direction <;> rfl

/-- Exchanges the velocities 1 and 2, and -1 and -2. -/
def exchange (v : Int8) : Int8 :=
  if v = 1 then 2 else if v = 2 then 1 else if v = -1 then -2 else if v = -2 then -1 else v

theorem exchange_velocity (direction : Direction) :
    exchange direction.velocity = direction.transposed.velocity := by
  cases direction <;> decide

end Direction

namespace Dims

/-! ## Coordinates around the torus -/

/-- The cell in a row and a column, both counted around the torus. -/
def cellAt (d : Dims) (row col : Int) : Nat :=
  (row % d.rows).toNat * d.cols + (col % d.cols).toNat

variable {d : Dims}

theorem toNat_emod_lt {size : Nat} (positive : 0 < size) (i : Int) : (i % size).toNat < size := by
  have low := Int.emod_nonneg i (show (size : Int) ≠ 0 by omega)
  have high := Int.emod_lt_of_pos i (show (0 : Int) < size by omega)
  omega

theorem toNat_emod_of_lt {size i : Nat} (inside : i < size) : ((i : Int) % size).toNat = i := by
  rw [emod_of_lt inside, Int.toNat_natCast]

section Cells

variable (cells : 0 < d.area)
include cells

theorem rows_pos : 0 < d.rows := Nat.pos_of_mul_pos_right cells

theorem cols_pos : 0 < d.cols := Nat.pos_of_mul_pos_left cells

theorem cellAt_lt_area (row col : Int) : d.cellAt row col < d.area :=
  mul_add_lt_area (toNat_emod_lt (rows_pos cells) row) (toNat_emod_lt (cols_pos cells) col)

theorem row_cellAt (row col : Int) : (d.row (d.cellAt row col) : Int) = row % d.rows := by
  have positive := rows_pos cells
  rw [cellAt, row_of_eq rfl (toNat_emod_lt (cols_pos cells) col), Int.toNat_of_nonneg]
  exact Int.emod_nonneg row (by omega)

theorem col_cellAt (row col : Int) : (d.col (d.cellAt row col) : Int) = col % d.cols := by
  have positive := cols_pos cells
  rw [cellAt, col_of_eq rfl (toNat_emod_lt positive col), Int.toNat_of_nonneg]
  exact Int.emod_nonneg col (by omega)

end Cells

theorem cellAt_congr {row col row' col' : Int} (rows : row % d.rows = row' % d.rows)
    (cols : col % d.cols = col' % d.cols) : d.cellAt row col = d.cellAt row' col' := by
  rw [cellAt, cellAt, rows, cols]

theorem cellAt_row_col {cell : Nat} (inside : cell < d.area) :
    d.cellAt (d.row cell) (d.col cell) = cell := by
  rw [cellAt, toNat_emod_of_lt (row_lt_rows inside), toNat_emod_of_lt (col_lt_cols inside),
    row_mul_add_col]

theorem target_cellAt (cells : 0 < d.area) (row col : Int) (direction : Direction) :
    d.target (d.cellAt row col) direction.velocity =
      d.cellAt (row + direction.rowShift) (col + direction.colShift) := by
  have inside := cellAt_lt_area cells row col
  have moved := target_lt_area d (d.cellAt row col) direction.velocity cells
  obtain ⟨rows, cols⟩ := row_col_target inside direction
  rw [row_cellAt cells, Int.emod_add_emod] at rows
  rw [col_cellAt cells, Int.emod_add_emod] at cols
  rw [← cellAt_row_col moved, rows, cols]
  exact cellAt_congr (Int.emod_emod _ _) (Int.emod_emod _ _)

/-! ## Shifts -/

/-- The cell some rows further down and some columns further right, around the torus. -/
def shift (d : Dims) (down right : Int) (cell : Nat) : Nat :=
  d.cellAt (d.row cell + down) (d.col cell + right)

theorem shift_cellAt (cells : 0 < d.area) (row col down right : Int) :
    d.shift down right (d.cellAt row col) = d.cellAt (row + down) (col + right) := by
  rw [shift, row_cellAt cells, col_cellAt cells]
  exact cellAt_congr (Int.emod_add_emod _ _ _) (Int.emod_add_emod _ _ _)

theorem shift_shift_neg {cell : Nat} (inside : cell < d.area) (down right : Int) :
    d.shift down right (d.shift (-down) (-right) cell) = cell := by
  rw [shift.eq_def d (-down), shift_cellAt (Nat.zero_lt_of_lt inside), Int.neg_add_cancel_right,
    Int.neg_add_cancel_right, cellAt_row_col inside]

theorem target_shift {cell : Nat} (inside : cell < d.area) (down right : Int)
    (direction : Direction) :
    d.target (d.shift down right cell) direction.velocity =
      d.shift down right (d.target cell direction.velocity) := by
  have cells := Nat.zero_lt_of_lt inside
  rw [← cellAt_row_col inside, shift_cellAt cells, target_cellAt cells, target_cellAt cells,
    shift_cellAt cells, Int.add_right_comm, Int.add_right_comm (d.col cell : Int)]

/-! ## Transposition -/

/-- Rows and columns exchanged. -/
def transposed (d : Dims) : Dims := ⟨d.cols, d.rows⟩

theorem area_transposed (d : Dims) : d.transposed.area = d.area := Nat.mul_comm d.cols d.rows

/-- The cell whose row is the column of a cell, and whose column is its row. -/
def transpose (d : Dims) (cell : Nat) : Nat := d.transposed.cellAt (d.col cell) (d.row cell)

theorem transpose_cellAt (cells : 0 < d.area) (row col : Int) :
    d.transpose (d.cellAt row col) = d.transposed.cellAt col row := by
  rw [transpose, row_cellAt cells, col_cellAt cells]
  exact cellAt_congr (Int.emod_emod _ _) (Int.emod_emod _ _)

theorem transpose_transpose {cell : Nat} (inside : cell < d.area) :
    d.transposed.transpose (d.transpose cell) = cell := by
  have cells : 0 < d.transposed.area := by
    rw [area_transposed]
    exact Nat.zero_lt_of_lt inside
  rw [transpose.eq_def d, transpose_cellAt cells]
  exact cellAt_row_col inside

theorem target_transpose {cell : Nat} (inside : cell < d.area) (direction : Direction) :
    d.transposed.target (d.transpose cell) direction.transposed.velocity =
      d.transpose (d.target cell direction.velocity) := by
  have cells := Nat.zero_lt_of_lt inside
  have transposedCells : 0 < d.transposed.area := by rwa [area_transposed]
  rw [← cellAt_row_col inside, transpose_cellAt cells, target_cellAt transposedCells,
    target_cellAt cells, transpose_cellAt cells, Direction.rowShift_transposed,
    Direction.colShift_transposed]

end Dims

namespace Grid

/-- The grid of some dimensions whose cells show the given cells of a grid. -/
def rearranged (g : Grid) (d : Dims) (source : Nat → Nat) : Grid where
  dims := d
  cells := Array.ofFn fun i : Fin d.area => (g.get? (source i)).getD blankCell
  size_cells := Array.size_ofFn

theorem get?_rearranged {g : Grid} {d : Dims} {source : Nat → Nat} {i : Nat} (inside : i < d.area)
    (known : source i < g.dims.area) : (g.rearranged d source).get? i = g.get? (source i) := by
  obtain ⟨c, found⟩ := Option.isSome_iff_exists.mp ((g.isSome_get?_iff (source i)).mpr known)
  rw [get?, rearranged, Array.getElem?_ofFn, dif_pos inside, found, Option.getD_some]

/-- The grid with all rows moved down and all columns moved right, around the torus. -/
def shifted (g : Grid) (down right : Int) : Grid :=
  g.rearranged g.dims (g.dims.shift (-down) (-right))

/-- The grid with rows and columns exchanged. -/
def transposed (g : Grid) : Grid := g.rearranged g.dims.transposed g.dims.transposed.transpose

/-! ## Symmetries -/

/-- A correspondence of two grids under which the same characters and the same moves
correspond. -/
structure Symmetry (g h : Grid) where
  cell : Nat → Nat
  inverse : Nat → Nat
  velocity : Int8 → Int8
  area_eq : h.dims.area = g.dims.area
  get?_cell : ∀ i < g.dims.area, h.get? (cell i) = g.get? i
  inverse_cell : ∀ i < g.dims.area, inverse (cell i) = i
  cell_inverse : ∀ i < h.dims.area, inverse i < g.dims.area ∧ cell (inverse i) = i
  target : ∀ i < g.dims.area, ∀ direction : Direction,
    h.dims.target (cell i) (velocity direction.velocity) =
      cell (g.dims.target i direction.velocity)

namespace Symmetry

variable {g h : Grid} (σ : Symmetry g h)

theorem cell_inj {i j : Nat} (first : i < g.dims.area) (second : j < g.dims.area)
    (same : σ.cell i = σ.cell j) : i = j := by
  rw [← σ.inverse_cell i first, same, σ.inverse_cell j second]

theorem get?_eq_some_iff {i : Nat} {c : Char} :
    h.get? i = some c ↔ ∃ j, g.get? j = some c ∧ σ.cell j = i := by
  constructor
  · intro found
    obtain ⟨inside, around⟩ := σ.cell_inverse i (h.lt_area_of_get?_eq_some i c found)
    exact ⟨σ.inverse i, by rw [← σ.get?_cell _ inside, around, found], around⟩
  · rintro ⟨j, found, rfl⟩
    rw [σ.get?_cell j (g.lt_area_of_get?_eq_some j c found), found]

/-- A character is listed as often, in the corresponding cells. -/
theorem positions_perm (c : Char) : (h.positions c).Perm ((g.positions c).map σ.cell) := by
  have distinct : ((g.positions c).map σ.cell).Nodup := by
    refine List.Nodup.map_on ?_ (g.pairwise_lt_positions c).nodup
    intro i first j second
    rw [mem_positions_iff] at first second
    exact σ.cell_inj (g.lt_area_of_get?_eq_some i c first) (g.lt_area_of_get?_eq_some j c second)
  refine (List.perm_ext_iff_of_nodup (h.pairwise_lt_positions c).nodup distinct).mpr ?_
  intro i
  rw [mem_positions_iff, List.mem_map, σ.get?_eq_some_iff]
  simp only [mem_positions_iff]

/-- Shifting a grid is a symmetry that keeps velocities. -/
def shift (g : Grid) (down right : Int) : Symmetry g (g.shifted down right) where
  cell := g.dims.shift down right
  inverse := g.dims.shift (-down) (-right)
  velocity v := v
  area_eq := rfl
  get?_cell i inside := by
    have cells := Nat.zero_lt_of_lt inside
    have moved : g.dims.shift down right i < g.dims.area := Dims.cellAt_lt_area cells _ _
    have back := Dims.shift_shift_neg inside (-down) (-right)
    rw [Int.neg_neg, Int.neg_neg] at back
    rw [shifted, get?_rearranged moved (back.symm ▸ inside), back]
  inverse_cell i inside := by
    have back := Dims.shift_shift_neg inside (-down) (-right)
    rwa [Int.neg_neg, Int.neg_neg] at back
  cell_inverse i inside :=
    ⟨Dims.cellAt_lt_area (Nat.zero_lt_of_lt inside) _ _, Dims.shift_shift_neg inside down right⟩
  target i inside direction := Dims.target_shift inside down right direction

/-- Transposing a grid is a symmetry that exchanges velocities. -/
def transpose (g : Grid) : Symmetry g g.transposed where
  cell := g.dims.transpose
  inverse := g.dims.transposed.transpose
  velocity := Direction.exchange
  area_eq := g.dims.area_transposed
  get?_cell i inside := by
    have cells : 0 < g.dims.transposed.area := by
      rw [Dims.area_transposed]
      exact Nat.zero_lt_of_lt inside
    have moved : g.dims.transpose i < g.dims.transposed.area := Dims.cellAt_lt_area cells _ _
    have back := Dims.transpose_transpose inside
    rw [transposed, get?_rearranged moved (back.symm ▸ inside), back]
  inverse_cell i inside := Dims.transpose_transpose inside
  cell_inverse i inside := by
    have cells : 0 < g.dims.area := by
      rw [← Dims.area_transposed]
      exact Nat.zero_lt_of_lt inside
    exact ⟨Dims.cellAt_lt_area (d := g.dims) cells _ _,
      Dims.transpose_transpose (d := g.dims.transposed) inside⟩
  target i inside direction := by
    rw [Direction.exchange_velocity]
    exact Dims.target_transpose inside direction

example :
    let g := ofCells ⟨2, 3⟩ ['a', 'b', 'c', 'd', 'e', 'f']
    (g.shifted 1 (-1)).cells = #['e', 'f', 'd', 'b', 'c', 'a'] ∧
      g.transposed = ofCells ⟨3, 2⟩ ['a', 'd', 'b', 'e', 'c', 'f'] := by decide +kernel

end Symmetry

end Grid

end StepLab
