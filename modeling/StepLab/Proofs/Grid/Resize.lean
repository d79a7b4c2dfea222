import StepLab.Proofs.Grid.Reflow

/-! # What a resize keeps

A resize keeps the cells that both sizes have and blanks the others, so the characters it
drops are those in the rows and columns that the new size does not have, and their number
is what the grid has lost.  A size in between makes no difference as long as it cuts off
nothing that the last size would keep. -/

set_option autoImplicit false

namespace StepLab.Grid

/-! ## Characters kept and dropped -/

theorem inked_replicate_blankCell (n : Nat) : inked (List.replicate n blankCell) = 0 := by
  simp [inked, List.countP_replicate]

theorem inked_fit (n : Nat) (line : List Char) :
    inked (fit n blankCell line) = inked (line.take n) := by
  rw [fit, inked_append, inked_replicate_blankCell, Nat.add_zero]

/-- Cutting every row at a column splits the characters in two. -/
theorem inked_map_fit_add_inked_drop (n : Nat) (rows : List (List Char)) :
    inked (rows.map (fit n blankCell)).flatten + inked (rows.flatMap fun line => line.drop n) =
      inked rows.flatten := by
  induction rows with
  | nil => rfl
  | cons line rest ih =>
      have cut : inked (line.take n) + inked (line.drop n) = inked line := by
        rw [← inked_append, List.take_append_drop]
      simp only [List.map_cons, List.flatten_cons, List.flatMap_cons, inked_append, inked_fit]
      omega

/-- Rows that are added have no characters. -/
theorem inked_fitRows (d : Dims) (rows : List (List Char)) :
    inked (fitRows d rows).flatten =
      inked ((rows.take d.rows).map (fit d.cols blankCell)).flatten := by
  have added : inked ((List.replicate (d.rows - rows.length) []).map
      (fit d.cols blankCell)).flatten = 0 := by
    simp [fit, inked_replicate_blankCell, List.flatten_replicate_replicate]
  rw [fitRows, fit, List.map_append, List.flatten_append, inked_append, added, Nat.add_zero]

theorem toList_cells_resized (g : Grid) (d : Dims) :
    (g.resized d).cells.toList = (fitRows d g.rows).flatten := by
  rw [← flatten_rows, resized_eq_ofRows, rows_ofRows]

theorem inked_resized_add_dropped (g : Grid) (d : Dims) :
    inked (g.resized d).cells.toList + g.dropped d = inked g.cells.toList := by
  have columns := inked_map_fit_add_inked_drop d.cols (g.rows.take d.rows)
  have rows : inked (g.rows.take d.rows).flatten + inked (g.rows.drop d.rows).flatten =
      inked g.cells.toList := by
    rw [← inked_append, ← List.flatten_append, List.take_append_drop, flatten_rows]
  rw [toList_cells_resized, inked_fitRows, dropped_eq]
  omega

/-- A resize that drops characters drops one outside the new size. -/
theorem exists_entry_of_dropped_pos {g : Grid} {d : Dims} (lost : 0 < g.dropped d) :
    ∃ r c ch, entry g.rows r c = some ch ∧ ch ≠ blankCell ∧ (d.rows ≤ r ∨ d.cols ≤ c) := by
  have place : 0 < inked ((g.rows.take d.rows).flatMap fun line => line.drop d.cols) ∨
      0 < inked (g.rows.drop d.rows).flatten := by
    rw [dropped_eq] at lost
    omega
  rcases place with right | below
  · obtain ⟨ch, member, ink⟩ := List.countP_pos_iff.mp right
    obtain ⟨line, kept, beyond⟩ := List.mem_flatMap.mp member
    obtain ⟨r, row⟩ := List.mem_iff_getElem?.mp (List.mem_of_mem_take kept)
    obtain ⟨c, col⟩ := List.mem_iff_getElem?.mp beyond
    rw [List.getElem?_drop] at col
    exact ⟨r, d.cols + c, ch, entry_eq_some_iff.mpr ⟨line, row, col⟩, of_decide_eq_true ink,
      Or.inr (Nat.le_add_right _ _)⟩
  · obtain ⟨ch, member, ink⟩ := List.countP_pos_iff.mp below
    obtain ⟨line, beyond, here⟩ := List.mem_flatten.mp member
    obtain ⟨r, row⟩ := List.mem_iff_getElem?.mp beyond
    obtain ⟨c, col⟩ := List.mem_iff_getElem?.mp here
    rw [List.getElem?_drop] at row
    exact ⟨d.rows + r, c, ch, entry_eq_some_iff.mpr ⟨line, row, col⟩, of_decide_eq_true ink,
      Or.inl (Nat.le_add_right _ _)⟩

/-! ## Cells after a resize -/

theorem get?_resized (g : Grid) (d : Dims) {r c : Nat} (row : r < d.rows) (col : c < d.cols) :
    (g.resized d).get? (r * d.cols + c) =
      if r < g.dims.rows ∧ c < g.dims.cols then g.get? (r * g.dims.cols + c)
      else some blankCell := by
  rw [resized_eq_ofRows, get?_ofRows d g.rows row col]
  split
  next both =>
    have cell := entry_fitRows g.dims g.rows both.1 both.2
    rw [fitRows_rows] at cell
    rw [← cell, entry_rows g both.1 both.2]
  next new =>
    cases found : entry g.rows r c with
    | none => rfl
    | some ch => exact absurd (g.fits_rows.inside_of_entry found) new

theorem resized_resized (g : Grid) (m d : Dims) (tall : min g.dims.rows d.rows ≤ m.rows)
    (wide : min g.dims.cols d.cols ≤ m.cols) : (g.resized m).resized d = g.resized d := by
  have same : fitRows d (fitRows m g.rows) = fitRows d g.rows := by
    apply fitRows_fitRows
    · rwa [length_rows]
    · intro line member
      rwa [g.length_of_mem_rows member]
  rw [resized_eq_ofRows, resized_eq_ofRows, resized_eq_ofRows, rows_ofRows]
  exact ofRows_congr same

/-- A resize keeps the cells that both sizes have, blanks all others and reports exactly
the characters that the grid has lost, with a warning if there are any.  On the way to the
new size the grid may take any size that keeps what the new one keeps. -/
theorem reflow_keeps_common_cells (g : Grid) (d : Dims) :
    let after := (g.reflow d).value
    let lost := inked g.cells.toList - inked after.cells.toList
    after.dims = d ∧ after.cells.size = d.rows * d.cols ∧
    (∀ r < d.rows, ∀ c < d.cols, after.get? (r * d.cols + c) =
      if r < g.dims.rows ∧ c < g.dims.cols then g.get? (r * g.dims.cols + c)
      else some blankCell) ∧
    inked after.cells.toList ≤ inked g.cells.toList ∧ g.dropped d = lost ∧
    (g.reflow d).log = (if 0 < lost then
      #[{ level := .warn
          component := .grid
          message := "grid resize dropped program characters"
          fields := [("from", .plain g.dims.text), ("to", .plain d.text),
            ("dropped", .number lost)] }]
      else #[]) ∧
    ∀ m : Dims, min g.dims.rows d.rows ≤ m.rows → min g.dims.cols d.cols ≤ m.cols →
      ((g.reflow m).value.reflow d).value = after := by
  intro after lost
  have balance : inked after.cells.toList + g.dropped d = inked g.cells.toList :=
    inked_resized_add_dropped g d
  have counted : g.dropped d = lost := by omega
  refine ⟨rfl, after.size_cells, ?_, by omega, counted, ?_, ?_⟩
  · intro r row c col
    exact get?_resized g d row col
  · rw [reflow, Logged.log_bind, Logged.log_emitIf, droppedWarning, counted]
    simp
  · intro m tall wide
    exact resized_resized g m d tall wide

/-- A square on the way keeps what a narrow column keeps. -/
theorem reflow_keeps_common_cells_by_way_of_square :
    let g := ofCells ⟨2, 3⟩ ['a', 'b', 'c', 'd', ' ', 'f']
    let narrow := (g.reflow ⟨3, 1⟩).value
    narrow = ofCells ⟨3, 1⟩ ['a', 'd', ' '] ∧
      ((g.reflow ⟨2, 2⟩).value.reflow ⟨3, 1⟩).value = narrow := by
  have kept := reflow_keeps_common_cells (ofCells ⟨2, 3⟩ ['a', 'b', 'c', 'd', ' ', 'f']) ⟨3, 1⟩
  exact ⟨by decide +kernel, kept.2.2.2.2.2.2 ⟨2, 2⟩ (by decide) (by decide)⟩

end StepLab.Grid
