import StepLab.Grid.Reflow
import StepLab.Proofs.Grid.Layout

/-! # Copying rows

The loop over the rows of the new size appends what a row keeps and pads it, so that after
`n` rounds the array is the first `n` rows, each brought to the new width.  A grid that was
resized is therefore its rows laid out at the new size, and what was counted on the way
are the characters to the right of that size and below it. -/

set_option autoImplicit false

namespace StepLab.Grid

theorem inked_append (xs ys : List Char) : inked (xs ++ ys) = inked xs + inked ys :=
  List.countP_append

/-! ## One row -/

theorem toList_padTo (n : Nat) (cells : Array Char) :
    (padTo n cells).toList = fit n blankCell cells.toList := by
  rw [padTo, Array.toList_append, Array.toList_shrink, Array.toList_replicate, fit,
    Array.length_toList]

theorem fit_append {α : Type} (n m : Nat) (pad : α) {xs : List α} (whole : xs.length = n)
    (ys : List α) : fit (n + m) pad (xs ++ ys) = xs ++ fit m pad ys := by
  subst whole
  have kept : xs.take (xs.length + m) = xs := List.take_of_length_le (Nat.le_add_right _ _)
  simp [fit, List.take_append, Nat.add_sub_add_left, kept]

theorem fit_take {α : Type} (n : Nat) (pad : α) (xs : List α) :
    fit n pad (xs.take n) = fit n pad xs := by
  simp only [fit, List.take_take, Nat.min_self, List.length_take]
  congr 2
  omega

/-- The row that the loop reads. -/
theorem row_or_nil (g : Grid) (r : Nat) :
    (if r < g.dims.rows then g.row r else []) = g.rows[r]?.getD [] := by
  by_cases inside : r < g.dims.rows
  · rw [if_pos inside, getElem?_rows g inside, Option.getD_some]
  · rw [if_neg inside, List.getElem?_eq_none (by rw [length_rows]; omega), Option.getD_none]

theorem length_row_or_nil_le (g : Grid) (r : Nat) : (g.rows[r]?.getD []).length ≤ g.dims.cols := by
  cases found : g.rows[r]? with
  | none => exact Nat.zero_le _
  | some line => exact Nat.le_of_eq (g.length_of_mem_rows (List.mem_of_getElem? found))

/-- A row is not longer than the old width, so cutting at the narrower of the two widths
is cutting at the new one. -/
theorem copyRow_eq (g : Grid) (d : Dims) (copy : Copy) (r : Nat) :
    copyRow g d copy r =
      { cells := padTo ((r + 1) * d.cols) (copy.cells ++ (g.rows[r]?.getD []).take d.cols)
        dropped := copy.dropped + inked ((g.rows[r]?.getD []).drop d.cols) } := by
  have short := g.length_row_or_nil_le r
  rw [copyRow, row_or_nil]
  rcases Nat.le_total d.cols g.dims.cols with narrower | wider
  · rw [Nat.min_eq_left narrower]
  · rw [Nat.min_eq_right wider, List.take_of_length_le short, List.drop_of_length_le short,
      List.take_of_length_le (Nat.le_trans short wider),
      List.drop_of_length_le (Nat.le_trans short wider)]

/-! ## All rows -/

theorem toList_cells_foldl_copyRow (g : Grid) (d : Dims) (n : Nat) :
    ((List.range n).foldl (copyRow g d) {}).cells.toList =
      ((List.range n).map fun r => fit d.cols blankCell (g.rows[r]?.getD [])).flatten := by
  induction n with
  | zero => rfl
  | succ n ih =>
      -- the rows before are whole, so the padding is that of row `n` alone
      have whole : ((List.range n).map fun r =>
          fit d.cols blankCell (g.rows[r]?.getD [])).flatten.length = n * d.cols := by
        rw [length_flatten_of_length_eq d.cols _ (by simp), List.length_map, List.length_range]
      rw [foldl_copyRow_succ, copyRow_eq, toList_padTo, Array.toList_appendList, ih,
        Nat.succ_mul, fit_append _ _ _ whole, fit_take, List.range_succ, List.map_append,
        List.flatten_append]
      simp

theorem dropped_foldl_copyRow (g : Grid) (d : Dims) (n : Nat) :
    ((List.range n).foldl (copyRow g d) {}).dropped =
      inked ((g.rows.take n).flatMap fun line => line.drop d.cols) := by
  induction n with
  | zero => rfl
  | succ n ih =>
      rw [foldl_copyRow_succ, copyRow_eq, ih, List.take_add_one, List.flatMap_append, inked_append]
      cases g.rows[n]? with
      | none => simp
      | some line => simp

theorem dropped_foldl_dropRow (g : Grid) (copy : Copy) (below : List Nat) :
    (below.foldl (dropRow g) copy).dropped = copy.dropped + inked (below.flatMap g.row) := by
  induction below generalizing copy with
  | nil => rfl
  | cons r rest ih =>
      rw [List.foldl_cons, ih, List.flatMap_cons, inked_append, dropRow]
      exact Nat.add_assoc _ _ _

theorem drop_rows (g : Grid) (n : Nat) :
    g.rows.drop n = (List.range' n (g.dims.rows - n)).map g.row := by
  rw [rows, ← List.map_drop, List.range_eq_range', List.drop_range', Nat.mul_one, Nat.zero_add]

/-- The loop lays out the rows of the grid. -/
theorem resized_eq_ofRows (g : Grid) (d : Dims) : g.resized d = ofRows d g.rows := by
  have dims : (g.resized d).dims = (ofRows d g.rows).dims := rfl
  apply eq_of_dims_eq_of_cells_eq dims
  rw [← Array.toList_inj]
  show (g.copyRows d).cells.toList = (fitRows d g.rows).flatten
  rw [copyRows, cells_foldl_dropRow, toList_cells_foldl_copyRow, fitRows_eq_map_range]

/-- The loops count the characters to the right of the new size and below it. -/
theorem dropped_eq (g : Grid) (d : Dims) :
    g.dropped d = inked ((g.rows.take d.rows).flatMap fun line => line.drop d.cols) +
      inked (g.rows.drop d.rows).flatten := by
  rw [dropped, copyRows, dropped_foldl_dropRow, dropped_foldl_copyRow, drop_rows,
    ← List.flatMap_def]

theorem resized_self (g : Grid) : g.resized g.dims = g := by
  rw [resized_eq_ofRows, ofRows_rows]

end StepLab.Grid
