import StepLab.Pane.Program
import StepLab.Proofs.Language.Safety

/-! # The row in focus

The instructions of a text, and a free cell behind them, are cut into rows of the width of
the pane, so that cell `i` stands in row `i / width` and column `i % width`.  The pane
scrolls to the row of the executed instruction, or to the row of the selected or executed
cell of a grid.  That row exists, because the cursor of a session never leaves its program,
and it is one of the rows that the pane shows. -/

set_option autoImplicit false

namespace StepLab

namespace ProgramPane

/-! ## Rows of a width -/

section Chunks

variable {α : Type} {width fuel : Nat} {xs : List α}

theorem flatten_chunks (positive : 0 < width) (enough : xs.length ≤ fuel) :
    (chunks width fuel xs).flatten = xs := by
  fun_induction chunks width fuel xs with
  | case1 xs => simpa using enough
  | case2 => rfl
  | case3 fuel xs _ ih =>
      have shorter : (xs.drop width).length ≤ fuel := by
        rw [List.length_drop]
        omega
      rw [List.flatten_cons, ih shorter, List.take_append_drop]

/-- Row `r` holds the elements from `r * width` on, if there are any. -/
theorem getElem?_chunks (positive : 0 < width) (enough : xs.length ≤ fuel) (r : Nat) :
    (chunks width fuel xs)[r]? =
      if r * width < xs.length then some ((xs.drop (r * width)).take width) else none := by
  fun_induction chunks width fuel xs generalizing r with
  | case1 xs =>
      have none : xs.length = 0 := by omega
      simp [none]
  | case2 => simp
  | case3 fuel xs filled ih =>
      have filled : 0 < xs.length := List.length_pos_iff.mpr filled
      have shorter : (xs.drop width).length ≤ fuel := by
        rw [List.length_drop]
        omega
      cases r with
      | zero => simp [filled]
      | succ r =>
          rw [List.getElem?_cons_succ, ih shorter, List.length_drop, List.drop_drop,
            Nat.succ_mul, Nat.add_comm width]
          have moved : r * width < xs.length - width ↔ r * width + width < xs.length := by omega
          simp only [moved]

theorem length_of_mem_dropLast_chunks (positive : 0 < width) (enough : xs.length ≤ fuel)
    {row : List α} (member : row ∈ (chunks width fuel xs).dropLast) : row.length = width := by
  obtain ⟨r, found⟩ := List.mem_iff_getElem?.mp member
  rw [List.getElem?_dropLast] at found
  -- a row that is not the last one has a row after it, so it is full
  split at found
  · rename_i earlier
    have next := getElem?_chunks positive enough (r + 1)
    rw [List.getElem?_eq_getElem (by omega)] at next
    rw [getElem?_chunks positive enough] at found
    split at next
    · rename_i inside
      rw [Nat.succ_mul] at inside
      rw [if_pos (by omega), Option.some_inj] at found
      rw [← found, List.length_take, List.length_drop]
      omega
    · contradiction
  · contradiction

end Chunks

/-! ## The glyphs of a text -/

/-- The glyph in a row and a column of some lines. -/
def glyphAt (lines : List Line) (r c : Nat) : Option Glyph := lines[r]?.bind (·[c]?)

theorem glyphAt_chunks {width : Nat} (positive : 0 < width) (cells : Line) (r c : Nat) :
    glyphAt (chunks width cells.length cells) r c =
      if c < width then cells[r * width + c]? else none := by
  rw [glyphAt, getElem?_chunks positive (Nat.le_refl _)]
  by_cases inside : r * width < cells.length
  · rw [if_pos inside, Option.bind_some, List.getElem?_take, List.getElem?_drop]
  · rw [if_neg inside, Option.bind_none, List.getElem?_eq_none (by omega), ite_self]

theorem cellStyle_eq_cursor_iff (executed : Bool) (c : Char) :
    cellStyle executed false c = .badge Palette.cursor ↔ executed = true := by
  cases executed with
  | true => simp [cellStyle]
  | false =>
      simp only [cellStyle, Bool.false_eq_true, if_false, iff_false]
      split_ifs <;> simp [Style.badge, Style.ofFg]

variable (content : Content)

theorem map_char_textCells :
    (textCells content).map Glyph.char = content.snapshot.state.code ++ [' '] := by
  rw [textCells, List.map_map]
  exact List.zipIdx_map_fst 0 _

theorem getElem?_textCells (j : Nat) :
    (textCells content)[j]? = (content.snapshot.state.code ++ [' '])[j]?.map fun c =>
      { char := c, style := cellStyle (content.snapshot.state.cursor = some j) false c } := by
  rw [textCells, List.getElem?_map, List.getElem?_zipIdx, Option.map_map, Nat.zero_add]
  rfl

/-- Lines of a width that hold the given characters, all but the last one full, with the
highlight of the cursor in its place and nowhere else. -/
structure Wrapped (width : Nat) (chars : List Char) (cursor : Nat) (lines : List Line) :
    Prop where
  chars : lines.flatten.map Glyph.char = chars
  full : ∀ line ∈ lines.dropLast, line.length = width
  cursor : ∀ r c,
    (∃ glyph, glyphAt lines r c = some glyph ∧ glyph.style = .badge Palette.cursor) ↔
      r = cursor / width ∧ c = cursor % width

theorem Wrapped.row_lt_length {width : Nat} {chars : List Char} {cursor : Nat}
    {lines : List Line} (wrapped : Wrapped width chars cursor lines) :
    cursor / width < lines.length := by
  obtain ⟨glyph, found, _⟩ := (wrapped.cursor _ _).mpr ⟨rfl, rfl⟩
  obtain ⟨line, row, _⟩ := Option.bind_eq_some_iff.mp found
  exact (List.getElem?_eq_some_iff.mp row).1

theorem place_eq_iff {width r c i : Nat} (positive : 0 < width) :
    (c < width ∧ r * width + c = i) ↔ r = i / width ∧ c = i % width := by
  constructor
  · rintro ⟨inside, rfl⟩
    rw [Nat.mul_comm, Nat.mul_add_div positive, Nat.mul_add_mod, Nat.div_eq_of_lt inside,
      Nat.mod_eq_of_lt inside]
    exact ⟨rfl, rfl⟩
  · rintro ⟨rfl, rfl⟩
    refine ⟨Nat.mod_lt i positive, ?_⟩
    rw [Nat.mul_comm]
    exact Nat.div_add_mod i width

theorem highlighted_textCells_iff {content : Content} {i : Nat}
    (here : content.snapshot.state.cursor = some i)
    (inside : i ≤ content.snapshot.state.code.length) (j : Nat) :
    (∃ glyph, (textCells content)[j]? = some glyph ∧ glyph.style = .badge Palette.cursor) ↔
      j = i := by
  simp only [getElem?_textCells, Option.map_eq_some_iff, here]
  constructor
  · rintro ⟨_, ⟨c, _, rfl⟩, lit⟩
    have executed := (cellStyle_eq_cursor_iff _ c).mp lit
    simpa [eq_comm] using executed
  · rintro rfl
    have present : j < (content.snapshot.state.code ++ [' ']).length := by
      simp
      omega
    refine ⟨_, ⟨_, List.getElem?_eq_getElem present, rfl⟩, ?_⟩
    exact (cellStyle_eq_cursor_iff _ _).mpr (by simp)

theorem wrapped_textLines {width i : Nat} (wide : 0 < width)
    (here : content.snapshot.state.cursor = some i)
    (inside : i ≤ content.snapshot.state.code.length) :
    Wrapped width (content.snapshot.state.code ++ [' ']) i (textLines content width) := by
  have lines : textLines content width =
      chunks width (textCells content).length (textCells content) := by
    rw [textLines, Nat.max_eq_left wide]
  rw [lines]
  refine ⟨?_, ?_, ?_⟩
  · rw [flatten_chunks wide (Nat.le_refl _), map_char_textCells]
  · intro line member
    exact length_of_mem_dropLast_chunks wide (Nat.le_refl _) member
  · intro r c
    rw [glyphAt_chunks wide, ← place_eq_iff wide, ← highlighted_textCells_iff here inside]
    by_cases left : c < width
    · simp [left]
    · simp [left]

/-! ## Scrolling -/

variable {content}

/-- The pane scrolls just far enough for the row in focus to be shown. -/
theorem focusLine_shown {inner : Area} (high : 0 < inner.height)
    (near : scrollTo (focusLine content inner.width) inner.height ≤ maxOffset) :
    offset content inner ≤ focusLine content inner.width ∧
      focusLine content inner.width < offset content inner + inner.height := by
  unfold offset
  rw [Nat.max_eq_left high, Nat.min_eq_left near]
  unfold scrollTo
  omega

theorem contentLines_text (width : Nat) (reading : content.source = none)
    (text : content.snapshot.state.grid = none) :
    contentLines content width = textLines content width := by
  simp [contentLines, reading, text]

theorem focusLine_text {width i : Nat} (wide : 0 < width) (reading : content.source = none)
    (text : content.snapshot.state.grid = none)
    (here : content.snapshot.state.cursor = some i) : focusLine content width = i / width := by
  simp only [focusLine, reading, text, textFocus, here, Nat.max_eq_left wide]

theorem length_contentLines_grid {d : Dims} (width : Nat) (reading : content.source = none)
    (grid : content.snapshot.state.grid = some d) :
    (contentLines content width).length = d.rows := by
  simp [contentLines, reading, grid, gridLines]

theorem focusLine_grid {d : Dims} {i : Nat} (width : Nat) (cols : 0 < d.cols)
    (reading : content.source = none) (grid : content.snapshot.state.grid = some d)
    (here : content.selection.or content.snapshot.state.cursor = some i) :
    focusLine content width = i / d.cols := by
  simp only [focusLine, reading, grid, gridFocus, here, Nat.max_eq_left cols]

end ProgramPane

theorem Kind.grid_view_of_text (o : Options) {k : Kind} (text : k.isGrid = false)
    (s : (k.language o).State) : ((k.language o).view s).grid = none := by
  cases k with
  | stunStep | suffolk => rfl
  | wii2d | back => contradiction

namespace ProgramPane

/-- In a pane with room, the instructions of a session in a text language and a free cell
behind them stand in rows of the width of the pane with the cursor in its place, and the row
of the cursor is shown.  Of a grid, the row of the selected cell, or else of the executed
one, is there and is shown. -/
theorem focus_stays_in_view (o : Options) (k : Kind) (program : Program) (script : Script)
    (area : Area) (selection : Option Nat) (focused : Bool)
    (wide : 0 < area.inner.width) (high : 0 < area.inner.height) :
    let shown := ((Engine.create (k.language o) program o.pace).value.play script).snapshot
    let content : Content := { snapshot := shown, selection, focused }
    let lines := contentLines content area.inner.width
    let first := offset content area.inner
    (k.isGrid = false → ∃ i, shown.state.cursor = some i ∧ i ≤ shown.state.code.length ∧
      Wrapped area.inner.width (shown.state.code ++ [' ']) i lines ∧
      i / area.inner.width < lines.length ∧
      (scrollTo (i / area.inner.width) area.inner.height ≤ maxOffset →
        first ≤ i / area.inner.width ∧ i / area.inner.width < first + area.inner.height)) ∧
    (k.isGrid = true → ∃ d, shown.state.grid = some d ∧
      ((∀ i ∈ selection, i < d.rows * d.cols) →
        ∀ i, selection.or shown.state.cursor = some i →
          i / d.cols < lines.length ∧
          (scrollTo (i / d.cols) area.inner.height ≤ maxOffset →
            first ≤ i / d.cols ∧ i / d.cols < first + area.inner.height))) := by
  intro shown content lines first
  have sound := (Engine.sound_fresh (L := k.language o) program o.pace).play script
  have formed : shown.WellFormed k.isGrid :=
    k.wellFormed_of_sound o _ _ ((k.invariant o).state sound)
  constructor
  · intro text
    obtain ⟨i, here, inside⟩ := formed.text text
    have noGrid : content.snapshot.state.grid = none := k.grid_view_of_text o text _
    have wrapped : Wrapped area.inner.width (shown.state.code ++ [' ']) i lines := by
      have all : lines = textLines content area.inner.width := contentLines_text _ rfl noGrid
      rw [all]
      exact wrapped_textLines content wide here inside
    refine ⟨i, here, inside, wrapped, wrapped.row_lt_length, ?_⟩
    intro near
    have focus : focusLine content area.inner.width = i / area.inner.width :=
      focusLine_text wide rfl noGrid here
    rw [← focus] at near ⊢
    exact focusLine_shown high near
  · intro isGrid
    obtain ⟨d, grid, _, placed, _⟩ := formed.grid isGrid
    refine ⟨d, grid, ?_⟩
    intro chosen i here
    have inside : i < d.rows * d.cols := by
      cases selected : selection with
      | none => exact placed i (by simpa [selected] using here)
      | some j =>
          have same : j = i := by simpa [selected] using here
          exact same ▸ chosen j selected
    have rows : lines.length = d.rows := length_contentLines_grid _ rfl grid
    have cols : 0 < d.cols := Nat.pos_of_mul_pos_left (Nat.zero_lt_of_lt inside)
    constructor
    · rw [rows]
      exact Nat.div_lt_of_lt_mul (by rwa [Nat.mul_comm])
    · intro near
      have focus : focusLine content area.inner.width = i / d.cols :=
        focusLine_grid _ cols rfl grid here
      rw [← focus] at near ⊢
      exact focusLine_shown high near

/-- Four instructions in rows of two with the cursor behind them, at the start of a third
row where the pane shows two; and a column of six cells of which the last is selected. -/
theorem focus_stays_in_view_behind_full_row :
    let area : Area := { width := 4, height := 4 }
    let shown := ((Engine.create (Kind.stunStep.language {}) (.text "++++") {}).value.play
      (List.replicate 4 ({}, .dispatch .next))).snapshot
    let content : Content := { snapshot := shown }
    let column := ((Engine.create (Kind.back.language {})
      (.grid (Grid.ofCells ⟨6, 1⟩ ['a', 'b', 'c', 'd', 'e', 'f'])) {}).value.play []).snapshot
    let chosen : Content := { snapshot := column, selection := some 5 }
    (shown.state.cursor = some 4 ∧ offset content area.inner = 1 ∧
      Wrapped 2 ['+', '+', '+', '+', ' '] 4 (contentLines content 2) ∧
      (offset content area.inner ≤ 2 ∧ 2 < offset content area.inner + 2)) ∧
    (offset chosen area.inner = 4 ∧ 5 < (contentLines chosen 2).length ∧
      (offset chosen area.inner ≤ 5 ∧ 5 < offset chosen area.inner + 2)) := by
  intro area shown content column chosen
  have cursor : shown.state.cursor = some 4 := by decide +kernel
  have code : shown.state.code = ['+', '+', '+', '+'] := by decide +kernel
  have dims : column.state.grid = some ⟨6, 1⟩ := by decide +kernel
  obtain ⟨i, here, _, wrapped, _, inView⟩ := (focus_stays_in_view {} .stunStep (.text "++++")
    (List.replicate 4 ({}, .dispatch .next)) area none false (by decide) (by decide)).1 rfl
  obtain ⟨d, grid, rows⟩ := (focus_stays_in_view {} .back
    (.grid (Grid.ofCells ⟨6, 1⟩ ['a', 'b', 'c', 'd', 'e', 'f'])) [] area (some 5) false
    (by decide) (by decide)).2 rfl
  cases here.symm.trans cursor
  cases grid.symm.trans dims
  obtain ⟨row, rowInView⟩ := rows (by simp) 5 rfl
  have third : 4 / area.inner.width = 2 := by decide
  rw [code] at wrapped
  rw [third] at inView
  exact ⟨⟨cursor, by decide +kernel, wrapped, inView (by decide)⟩, by decide +kernel, row,
    rowInView (by decide)⟩

end ProgramPane

end StepLab
