import StepLab.Grid.Basic
import StepLab.Log

/-! # Resizing a grid

The rows are copied onto one flat array, each cut or padded to the new width, and the
characters that are not copied are counted on the way. -/

set_option autoImplicit false

namespace StepLab.Grid

def inked (cells : List Char) : Nat :=
  cells.countP (· ≠ blankCell)

/-- Brings an array to a given size: cut at the end, or padded with blanks. -/
def padTo (n : Nat) (cells : Array Char) : Array Char :=
  cells.shrink n ++ Array.replicate (n - cells.size) blankCell

@[simp] theorem size_padTo (n : Nat) (cells : Array Char) : (padTo n cells).size = n := by
  simp [padTo]; omega

/-- The copied cells, and the number of characters that were not copied. -/
structure Copy where
  cells : Array Char := #[]
  dropped : Nat := 0

def copyRow (g : Grid) (d : Dims) (copy : Copy) (r : Nat) : Copy :=
  let keep := min d.cols g.dims.cols
  let row := if r < g.dims.rows then g.row r else []
  { cells := padTo ((r + 1) * d.cols) (copy.cells ++ row.take keep)
    dropped := copy.dropped + inked (row.drop keep) }

def dropRow (g : Grid) (copy : Copy) (r : Nat) : Copy :=
  { copy with dropped := copy.dropped + inked (g.row r) }

/-- Copies the rows that the new size has and drops the rows below them. -/
def copyRows (g : Grid) (d : Dims) : Copy :=
  (List.range' d.rows (g.dims.rows - d.rows)).foldl (dropRow g)
    ((List.range d.rows).foldl (copyRow g d) {})

theorem cells_foldl_dropRow (g : Grid) (copy : Copy) (below : List Nat) :
    (below.foldl (dropRow g) copy).cells = copy.cells := by
  induction below generalizing copy with
  | nil => rfl
  | cons r rest ih => exact ih (dropRow g copy r)

theorem foldl_copyRow_succ (g : Grid) (d : Dims) (n : Nat) :
    (List.range (n + 1)).foldl (copyRow g d) {} =
      copyRow g d ((List.range n).foldl (copyRow g d) {}) n := by
  rw [List.range_succ, List.foldl_append]
  rfl

theorem size_cells_copyRows (g : Grid) (d : Dims) : (g.copyRows d).cells.size = d.area := by
  rw [copyRows, cells_foldl_dropRow, Dims.area]
  cases d.rows with
  | zero => simp
  | succ n =>
      rw [foldl_copyRow_succ]
      exact size_padTo _ _

def resized (g : Grid) (d : Dims) : Grid where
  dims := d
  cells := (g.copyRows d).cells
  size_cells := g.size_cells_copyRows d

def dropped (g : Grid) (d : Dims) : Nat :=
  (g.copyRows d).dropped

def droppedWarning (g : Grid) (d : Dims) : Record where
  level := .warn
  component := .grid
  message := "grid resize dropped program characters"
  fields :=
    [("from", .plain g.dims.text), ("to", .plain d.text),
     ("dropped", .number (g.dropped d))]

def reflow (g : Grid) (d : Dims) : Logged Grid := do
  Logged.emitIf (0 < g.dropped d) (g.droppedWarning d)
  return g.resized d

@[simp] theorem value_reflow (g : Grid) (d : Dims) :
    (g.reflow d).value = g.resized d := rfl

end StepLab.Grid
