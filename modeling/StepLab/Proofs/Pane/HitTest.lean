import StepLab.Pane.Program

/-! # Hit testing in the program pane

`shownCell` is the grid cell that the program pane shows at a screen position, its glyph
or the gap after it: the position has to lie inside the pane, and the rows that are
scrolled away count.  `paint_draw_grid` says that this is what drawing the pane does, on the
assumption of one column per character (see `GlyphRow.paintAt`).  `cellAt` looks neither at
the right and lower edges of the pane nor at the scroll.  So it answers what is shown exactly
where it finds nothing, or where the position lies inside a pane that is not scrolled. -/

set_option autoImplicit false

namespace StepLab

namespace Picture

theorem paint_lines_of_outside (area : Area) (align : Align) (content : List Line)
    (screen : Area) (x y : Nat) (cell : Cell) (outside : area.contains x y = false) :
    (lines area align content).paint screen x y cell = cell := by
  simp [lines, within, outside]

/-- Inside its area a column of lines is drawn one line a row, from the left edge. -/
theorem paint_lines_of_inside (area : Area) (content : List Line) (screen : Area)
    (x y : Nat) (cell : Cell) (inside : area.contains x y = true) :
    (lines area .left content).paint screen x y cell =
      match content[y - area.y]? with
      | some line => GlyphRow.paintAt line.placed.toArray (x - area.x) cell
      | none => cell := by
  cases found : content[y - area.y]? with
  | none => simp [lines, within, inside, found]
  | some line => simp [lines, within, inside, found, Align.shift, GlyphRow.paintFrom]

end Picture

namespace ProgramPane

/-- The border of the pane with its title. -/
def frame (content : Content) : Block where
  title := title content
  style := borderStyle content.focused

theorem paint_draw (area : Area) (content : Content) (screen : Area) (x y : Nat)
    (cell : Cell) :
    (draw area content).paint screen x y cell =
      (Picture.lines area.inner .left
        ((contentLines content area.inner.width).drop (offset content area.inner))).paint
          screen x y (((frame content).draw area).paint screen x y cell) := rfl

/-- The grid cell that the pane shows at a screen position. -/
def shownCell (area : Area) (content : Content) (d : Dims) (column row : Nat) : Option Nat :=
  let inner := area.inner
  let c := (column - inner.x) / cellWidth
  let r := row - inner.y + offset content inner
  if inner.contains column row = true ∧ c < d.cols ∧ r < d.rows then some (r * d.cols + c)
  else none

/-- Writes the glyph or the gap of the cell that is shown, if there is one, in the given
column of the cell. -/
def writeShown (content : Content) (shown : Option Nat) (column : Nat) (under : Cell) : Cell :=
  match shown with
  | some i =>
      GlyphRow.paintAt (gridCell content content.snapshot.state.code.toArray i).toArray
        column under
  | none => under

variable {content : Content} {d : Dims}

theorem shownGlyph_ne_newline {c : Char} (printed : c ≠ '\n') : shownGlyph c ≠ '\n' := by
  unfold shownGlyph
  split
  · decide
  · exact printed

theorem char_ne_newline_of_mem_gridCell (printed : '\n' ∉ content.snapshot.state.code)
    (i : Nat) (glyph : Glyph)
    (member : glyph ∈ gridCell content content.snapshot.state.code.toArray i) :
    glyph.char ≠ '\n' := by
  simp only [gridCell, List.mem_cons, List.not_mem_nil, or_false, List.getElem?_toArray]
    at member
  rcases member with rfl | rfl
  · apply shownGlyph_ne_newline
    cases found : content.snapshot.state.code[i]? with
    | none => decide
    | some c =>
        rintro rfl
        exact printed (List.mem_of_getElem? found)
  · simp

theorem placed_gridLine (printed : '\n' ∉ content.snapshot.state.code) (r : Nat) :
    (gridLine content content.snapshot.state.code.toArray d r).placed =
      gridLine content content.snapshot.state.code.toArray d r := by
  apply List.filter_eq_self.mpr
  intro glyph member
  obtain ⟨c, _, member⟩ := List.mem_flatMap.mp member
  simpa using char_ne_newline_of_mem_gridCell printed _ glyph member

theorem getElem?_flatMap_cells {α β : Type} (xs : List α) (line : α → List β)
    (widths : ∀ x, (line x).length = cellWidth) (j : Nat) :
    (xs.flatMap line)[j]? = xs[j / cellWidth]?.bind fun x => (line x)[j % cellWidth]? := by
  unfold cellWidth at *
  induction xs generalizing j with
  | nil => simp
  | cons x xs ih =>
      rw [List.flatMap_cons]
      by_cases first : j < 2
      · rw [List.getElem?_append_left (by rw [widths]; exact first), Nat.div_eq_of_lt first,
          Nat.mod_eq_of_lt first]
        rfl
      · have quotient : j / 2 = (j - 2) / 2 + 1 := by omega
        have remainder : (j - 2) % 2 = j % 2 := by omega
        rw [List.getElem?_append_right (by rw [widths]; omega), widths, ih, quotient, remainder]
        rfl

theorem getElem?_gridLine (code : Array Char) (r j : Nat) :
    (gridLine content code d r)[j]? =
      if j / cellWidth < d.cols then
        (gridCell content code (r * d.cols + j / cellWidth))[j % cellWidth]?
      else none := by
  rw [gridLine, getElem?_flatMap_cells _ _ fun _ => rfl]
  by_cases inside : j / cellWidth < d.cols
  · simp [inside]
  · simp [inside]

theorem getElem?_gridLines (r : Nat) :
    (gridLines content d)[r]? =
      if r < d.rows then some (gridLine content content.snapshot.state.code.toArray d r)
      else none := by
  by_cases inside : r < d.rows
  · simp [gridLines, inside]
  · simp [gridLines, inside]

/-- Drawing a grid writes, at every position of the pane where a cell is shown, the glyph
or the gap of that cell over the border, and nothing anywhere else. -/
theorem paint_draw_grid (reading : content.source = none)
    (grid : content.snapshot.state.grid = some d)
    (printed : '\n' ∉ content.snapshot.state.code) (area screen : Area) (column row : Nat)
    (cell : Cell) :
    (draw area content).paint screen column row cell =
      writeShown content (shownCell area content d column row)
        ((column - area.inner.x) % cellWidth)
        (((frame content).draw area).paint screen column row cell) := by
  have lines : contentLines content area.inner.width = gridLines content d := by
    simp [contentLines, reading, grid]
  rw [paint_draw, lines]
  cases inside : area.inner.contains column row with
  | false =>
      rw [Picture.paint_lines_of_outside _ _ _ _ _ _ _ inside]
      simp [shownCell, inside, writeShown]
  | true =>
      rw [Picture.paint_lines_of_inside _ _ _ _ _ _ inside, List.getElem?_drop,
        Nat.add_comm, getElem?_gridLines]
      by_cases low : row - area.inner.y + offset content area.inner < d.rows
      · by_cases wide : (column - area.inner.x) / cellWidth < d.cols
        · simp [shownCell, inside, low, wide, writeShown, placed_gridLine printed,
            GlyphRow.paintAt, getElem?_gridLine]
        · simp [shownCell, inside, low, wide, writeShown, placed_gridLine printed,
            GlyphRow.paintAt, getElem?_gridLine]
      · simp [shownCell, inside, low, writeShown]

/-! ## Agreement -/

theorem cellAt_eq_some_iff (inner : Area) (column row i : Nat) :
    cellAt inner d column row = some i ↔
      inner.x ≤ column ∧ inner.y ≤ row ∧ (column - inner.x) / cellWidth < d.cols ∧
        row - inner.y < d.rows ∧
        (row - inner.y) * d.cols + (column - inner.x) / cellWidth = i := by
  by_cases before : column < inner.x ∨ row < inner.y
  · have missed : cellAt inner d column row = none := by simp [cellAt, before]
    rw [missed]
    constructor
    · intro hit
      contradiction
    · rintro ⟨left, top, _⟩
      omega
  · have left : inner.x ≤ column := by omega
    have top : inner.y ≤ row := by omega
    simp [cellAt, before, left, top, and_assoc]

theorem shownCell_eq_some_iff (area : Area) (column row i : Nat) :
    shownCell area content d column row = some i ↔
      area.inner.contains column row = true ∧
        (column - area.inner.x) / cellWidth < d.cols ∧
        row - area.inner.y + offset content area.inner < d.rows ∧
        (row - area.inner.y + offset content area.inner) * d.cols +
          (column - area.inner.x) / cellWidth = i := by
  simp [shownCell, and_assoc]

/-- Where a cell is shown, hit testing finds the cell as many rows above it as are
scrolled away. -/
theorem cellAt_of_shownCell {area : Area} {column row i : Nat}
    (shown : shownCell area content d column row = some i) :
    ∃ j, cellAt area.inner d column row = some j ∧
      i = j + offset content area.inner * d.cols := by
  obtain ⟨inside, wide, low, rfl⟩ := (shownCell_eq_some_iff area column row i).mp shown
  obtain ⟨⟨left, _⟩, top, _⟩ := (area.inner.contains_iff column row).mp inside
  refine ⟨_, (cellAt_eq_some_iff area.inner column row _).mpr
    ⟨left, top, wide, by omega, rfl⟩, ?_⟩
  rw [Nat.add_mul]
  omega

theorem shownCell_eq_none_of_cellAt {area : Area} {column row : Nat}
    (missed : cellAt area.inner d column row = none) :
    shownCell area content d column row = none := by
  cases shown : shownCell area content d column row with
  | none => rfl
  | some i =>
      obtain ⟨j, hit, _⟩ := cellAt_of_shownCell shown
      rw [missed] at hit
      contradiction

theorem shownCell_eq_cellAt_of_unscrolled {area : Area} {column row : Nat}
    (inside : area.inner.contains column row = true)
    (unscrolled : offset content area.inner = 0) :
    shownCell area content d column row = cellAt area.inner d column row := by
  obtain ⟨⟨left, _⟩, top, _⟩ := (area.inner.contains_iff column row).mp inside
  apply Option.ext
  intro i
  rw [shownCell_eq_some_iff, cellAt_eq_some_iff, unscrolled]
  simp [inside, left, top]

/-- Drawing a grid shows `shownCell` at a position, and hit testing there agrees with it
exactly when it finds nothing, or the position lies inside the pane and no row is
scrolled away. -/
theorem cellAt_eq_shownCell_iff (area : Area) (content : Content) (d : Dims)
    (column row : Nat) (reading : content.source = none)
    (grid : content.snapshot.state.grid = some d) :
    ('\n' ∉ content.snapshot.state.code → ∀ screen cell,
      (draw area content).paint screen column row cell =
        writeShown content (shownCell area content d column row)
          ((column - area.inner.x) % cellWidth)
          (((frame content).draw area).paint screen column row cell)) ∧
    (cellAt area.inner d column row = shownCell area content d column row ↔
      cellAt area.inner d column row = none ∨
        (area.inner.contains column row = true ∧ offset content area.inner = 0)) := by
  constructor
  · intro printed screen cell
    exact paint_draw_grid reading grid printed area screen column row cell
  · constructor
    · intro agree
      cases hit : cellAt area.inner d column row with
      | none => exact Or.inl rfl
      | some i =>
          right
          have shown := agree.symm.trans hit
          obtain ⟨inside, wide, _, _⟩ := (shownCell_eq_some_iff area column row i).mp shown
          obtain ⟨j, found, above⟩ := cellAt_of_shownCell shown
          have same : i = j := Option.some.inj (hit.symm.trans found)
          have scrolled : offset content area.inner * d.cols = 0 := by omega
          have columns : d.cols ≠ 0 := Nat.ne_zero_of_lt wide
          exact ⟨inside, (Nat.mul_eq_zero.mp scrolled).resolve_right columns⟩
    · rintro (missed | ⟨inside, unscrolled⟩)
      · rw [missed, shownCell_eq_none_of_cellAt missed]
      · exact (shownCell_eq_cellAt_of_unscrolled inside unscrolled).symm

/-- A column of six cells in a pane that shows three, none of them selected: the third
row of the pane is the third cell. -/
theorem cellAt_eq_shownCell_of_unscrolled_column :
    let area : Area := { width := 4, height := 5 }
    let content : Content :=
      { snapshot := { state := { code := ['a', 'b', 'c', 'd', 'e', 'f'], grid := some ⟨6, 1⟩ } } }
    cellAt area.inner ⟨6, 1⟩ 1 3 = shownCell area content ⟨6, 1⟩ 1 3 ∧
      ((draw area content).paint area 1 3 {}).glyph = 'c' := by
  intro area content
  have agreement := cellAt_eq_shownCell_iff area content ⟨6, 1⟩ 1 3 rfl rfl
  have shown : shownCell area content ⟨6, 1⟩ 1 3 = some 2 := by decide
  refine ⟨agreement.2.mpr (Or.inr ⟨by decide, by decide⟩), ?_⟩
  rw [agreement.1 (by decide), shown]
  rfl

/-- The same column with its last cell selected, so that the pane shows the last three:
its first row is the fourth cell, and hit testing takes it for the first one.  Below the
pane nothing is shown, and hit testing finds a cell. -/
theorem cellAt_misses_scroll_and_edge :
    let area : Area := { width := 4, height := 5 }
    let content : Content :=
      { snapshot := { state := { code := ['a', 'b', 'c', 'd', 'e', 'f'], grid := some ⟨6, 1⟩ } }
        selection := some 5 }
    (cellAt area.inner ⟨6, 1⟩ 1 1 = some 0 ∧
        shownCell area content ⟨6, 1⟩ 1 1 = some 3 ∧
        ((draw area content).paint area 1 1 {}).glyph = 'd') ∧
      (cellAt area.inner ⟨6, 1⟩ 1 5 = some 4 ∧
        area.inner.contains 1 5 = false ∧
        shownCell area content ⟨6, 1⟩ 1 5 = none) := by
  intro area content
  refine ⟨⟨by decide, by decide, ?_⟩, by decide, by decide, by decide⟩
  rfl

end ProgramPane

end StepLab
