import StepLab.Grid.Dims

/-! # Character grids

One character per cell, row by row, with as many cells as the dimensions say. -/

set_option autoImplicit false

namespace StepLab

structure Grid where
  dims : Dims
  cells : Array Char
  size_cells : cells.size = dims.area
  deriving DecidableEq

namespace Grid

def blankCell : Char := ' '

/-- Brings a list to a given length: cut at the end, or padded at the end. -/
def fit {α : Type} (n : Nat) (pad : α) (xs : List α) : List α :=
  xs.take n ++ List.replicate (n - xs.length) pad

@[simp] theorem length_fit {α : Type} (n : Nat) (pad : α) (xs : List α) :
    (fit n pad xs).length = n := by
  simp [fit]; omega

def ofCells (d : Dims) (cells : List Char) : Grid where
  dims := d
  cells := (fit d.area blankCell cells).toArray
  size_cells := by simp

def empty (d : Dims) : Grid where
  dims := d
  cells := Array.replicate d.area blankCell
  size_cells := by simp

@[simp] theorem dims_empty (d : Dims) : (empty d).dims = d := rfl

def get? (g : Grid) (i : Nat) : Option Char := g.cells[i]?

theorem isSome_get?_iff (g : Grid) (i : Nat) : (g.get? i).isSome ↔ i < g.dims.area := by
  rw [get?, ← g.size_cells]
  simp

/-- Writes one cell; a cell outside the grid is left alone. -/
def set (g : Grid) (i : Nat) (c : Char) : Grid where
  dims := g.dims
  cells := g.cells.setIfInBounds i c
  size_cells := by simp [g.size_cells]

@[simp] theorem dims_set (g : Grid) (i : Nat) (c : Char) : (g.set i c).dims = g.dims := rfl

theorem get?_set_self (g : Grid) (i : Nat) (c : Char) (inside : i < g.dims.area) :
    (g.set i c).get? i = some c := by
  have bound : i < g.cells.size := by rw [g.size_cells]; exact inside
  simp [get?, set, bound]

theorem get?_set_of_ne (g : Grid) (i j : Nat) (c : Char) (other : i ≠ j) :
    (g.set i c).get? j = g.get? j := by
  simp [get?, set, other]

/-- One row; rows past the last are empty. -/
def row (g : Grid) (r : Nat) : List Char :=
  (g.cells.extract (r * g.dims.cols) (r * g.dims.cols + g.dims.cols)).toList

def rows (g : Grid) : List (List Char) :=
  (List.range g.dims.rows).map g.row

/-- The cells that hold a character, in order. -/
def positions (g : Grid) (c : Char) : List Nat :=
  (g.cells.toList.zipIdx.filter fun cell => cell.1 = c).map Prod.snd

end Grid

end StepLab
