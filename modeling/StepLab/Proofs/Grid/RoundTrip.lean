import StepLab.Proofs.Grid.Loading
import StepLab.Proofs.Text.Lines

/-! # Grids written as texts and read back

A grid is written row by row without the blanks at the ends of its rows.  If blank cells are
its only white space, its text read at its size gives the grid back.  The grid that fits the
text is the same one unless the size has left the text: a blank last row ends in nothing but
a newline, and a blank last column is trimmed from every row. -/

set_option autoImplicit false

namespace StepLab.Grid

/-- Blank cells are the only white space. -/
def Plain (g : Grid) : Prop :=
  ∀ ch ∈ g.cells, Text.isBlank ch = true → ch = blankCell

/-- The rows without the white space at their ends. -/
def trimmedRows (g : Grid) : List (List Char) := g.rows.map Text.trimEnd

theorem lines_toText (g : Grid) :
    Text.lines g.toText.toList = Text.lines (Text.unlines g.trimmedRows) := by
  rw [toText, String.toList_ofList, trimmedRows]

theorem length_trimmedRows (g : Grid) : g.trimmedRows.length = g.dims.rows := by
  rw [trimmedRows, List.length_map, length_rows]

theorem fits_trimmedRows (g : Grid) : Fits g.dims g.trimmedRows where
  tall := Nat.le_of_eq g.length_trimmedRows
  wide line member := by
    obtain ⟨row, given, rfl⟩ := List.mem_map.mp member
    rw [← g.length_of_mem_rows given]
    exact (Text.trimEnd_isPrefix row).length_le

theorem mem_trimmedRows_iff (g : Grid) {line : List Char} :
    line ∈ g.trimmedRows ↔ ∃ r < g.dims.rows, Text.trimEnd (g.row r) = line := by
  simp [trimmedRows, rows]

/-- Padding gives back what was trimmed. -/
theorem fit_trimEnd {line : List Char} (plain : ∀ ch ∈ line, Text.isBlank ch → ch = blankCell) :
    fit line.length blankCell (Text.trimEnd line) = line := by
  have split : Text.trimEnd line ++ line.rtakeWhile Text.isBlank = line :=
    List.rdropWhile_append_rtakeWhile
  have trimmed : line.rtakeWhile Text.isBlank =
      List.replicate (line.length - (Text.trimEnd line).length) blankCell := by
    rw [List.eq_replicate_iff]
    constructor
    · have lengths := congrArg List.length split
      rw [List.length_append] at lengths
      omega
    · intro ch member
      exact plain ch ((List.rtakeWhile_suffix Text.isBlank line).mem member)
        (List.mem_rtakeWhile_imp member)
  rw [fit, List.take_of_length_le (Text.trimEnd_isPrefix line).length_le, ← trimmed, split]

section Plain

variable {g : Grid} (plain : g.Plain)
include plain

theorem Plain.of_mem_rows {line : List Char} (member : line ∈ g.rows) :
    ∀ ch ∈ line, Text.isBlank ch → ch = blankCell := by
  intro ch here
  apply plain
  rw [← Array.mem_toList_iff, ← flatten_rows]
  exact List.mem_flatten_of_mem member here

theorem Plain.whole : ∀ line ∈ g.trimmedRows, Text.Whole line := by
  intro line member
  obtain ⟨row, given, rfl⟩ := List.mem_map.mp member
  apply Text.whole_trimEnd
  intro newline
  exact absurd (plain.of_mem_rows given _ newline (by decide)) (by decide)

/-- The lines of the text are the trimmed rows, an empty last one apart. -/
theorem Plain.lines_cases :
    (Text.lines g.toText.toList = g.trimmedRows ∧ g.trimmedRows.getLast? ≠ some []) ∨
      g.trimmedRows = Text.lines g.toText.toList ++ [[]] := by
  by_cases ending : g.trimmedRows.getLast? = some []
  · right
    obtain ⟨before, rows⟩ := List.getLast?_eq_some_iff.mp ending
    have whole : ∀ line ∈ before, Text.Whole line := fun line member =>
      plain.whole line (by rw [rows]; exact List.mem_append_left _ member)
    rw [lines_toText, rows, Text.lines_unlines_concat_nil before whole]
  · left
    rw [lines_toText]
    exact ⟨Text.lines_unlines plain.whole ending, ending⟩

theorem Plain.mem_lines_iff {line : List Char} (inked : line ≠ []) :
    line ∈ Text.lines g.toText.toList ↔ line ∈ g.trimmedRows := by
  rcases plain.lines_cases with ⟨all, _⟩ | rows
  · rw [all]
  · rw [rows, List.mem_append, List.mem_singleton]
    exact (or_iff_left inked).symm

theorem Plain.fits_lines : Fits g.dims (Text.lines g.toText.toList) := by
  have fits := g.fits_trimmedRows
  rcases plain.lines_cases with ⟨all, _⟩ | rows
  · rwa [all]
  · rw [rows] at fits
    have tall := fits.tall
    rw [List.length_append] at tall
    exact ⟨by omega, fun line member => fits.wide line (List.mem_append_left _ member)⟩

theorem Plain.fitRows_lines : fitRows g.dims (Text.lines g.toText.toList) = g.rows := by
  have padded : fitRows g.dims (Text.lines g.toText.toList) = fitRows g.dims g.trimmedRows := by
    rcases plain.lines_cases with ⟨all, _⟩ | rows
    · rw [all]
    · rw [rows, fitRows, fitRows, fit_concat_pad]
  have same : ∀ line ∈ g.rows, fit g.dims.cols blankCell (Text.trimEnd line) = line := by
    intro line member
    rw [← g.length_of_mem_rows member]
    exact fit_trimEnd (plain.of_mem_rows member)
  rw [padded, fitRows, fit_of_length_eq [] g.length_trimmedRows, trimmedRows, List.map_map]
  exact (List.map_congr_left same).trans (List.map_id' g.rows)

theorem Plain.ofText_toText : ofText g.dims g.toText = g := by
  have same : fitRows g.dims (Text.lines g.toText.toList) = fitRows g.dims g.rows := by
    rw [plain.fitRows_lines, fitRows_rows]
  rw [ofText_eq_ofRows, ofRows_congr same, ofRows_rows]

/-! ## The size of the text -/

theorem Plain.isBlank_iff {i : Nat} {ch : Char} (cell : g.get? i = some ch) :
    Text.isBlank ch = true ↔ ch = blankCell := by
  constructor
  · exact plain ch (Array.mem_of_getElem? cell)
  · rintro rfl
    decide

theorem Plain.trimEnd_row_eq_nil_iff {r : Nat} (row : r < g.dims.rows) :
    Text.trimEnd (g.row r) = [] ↔
      ∀ c < g.dims.cols, g.get? (r * g.dims.cols + c) = some blankCell := by
  have length := g.length_row row
  rw [Text.trimEnd_eq_nil_iff]
  constructor
  · intro blank c col
    have cell := g.getElem?_row r col
    rw [List.getElem?_eq_getElem (by rwa [length])] at cell
    rw [← cell, (plain.isBlank_iff cell.symm).mp (blank _ (List.getElem_mem _))]
  · intro blank ch member
    obtain ⟨c, here⟩ := List.mem_iff_getElem?.mp member
    have col : c < g.dims.cols := by
      rw [← length]
      exact (List.getElem?_eq_some_iff.mp here).1
    rw [g.getElem?_row r col] at here
    rw [plain.isBlank_iff here, ← Option.some_inj, ← here, blank c col]

/-- A row keeps its length exactly if there is a character in the last column. -/
theorem Plain.length_trimEnd_row_iff {r : Nat} (row : r < g.dims.rows)
    (cols : 0 < g.dims.cols) :
    (Text.trimEnd (g.row r)).length = g.dims.cols ↔
      g.get? (r * g.dims.cols + (g.dims.cols - 1)) ≠ some blankCell := by
  have last : (g.row r).getLast? = g.get? (r * g.dims.cols + (g.dims.cols - 1)) := by
    rw [List.getLast?_eq_getElem?, g.length_row row, g.getElem?_row r (by omega)]
  have length := Text.length_trimEnd_eq_iff (g.row r)
  rw [g.length_row row, last] at length
  rw [length]
  cases cell : g.get? (r * g.dims.cols + (g.dims.cols - 1)) with
  | none => simp
  | some ch =>
      rw [Ne, Option.some_inj, ← plain.isBlank_iff cell]
      simp

theorem Plain.rows_textDims_iff (rows : 0 < g.dims.rows) :
    (textDims g.toText).rows = g.dims.rows ↔ g.dims.rows = 1 ∨
      ∃ c < g.dims.cols, g.get? ((g.dims.rows - 1) * g.dims.cols + c) ≠ some blankCell := by
  have last : g.trimmedRows.getLast? = some (Text.trimEnd (g.row (g.dims.rows - 1))) := by
    rw [List.getLast?_eq_getElem?, length_trimmedRows, trimmedRows, List.getElem?_map, Grid.rows,
      List.getElem?_map, List.getElem?_range (by omega)]
    rfl
  have blank := plain.trimEnd_row_eq_nil_iff (r := g.dims.rows - 1) (by omega)
  have counted := g.length_trimmedRows
  show max 1 (Text.lines g.toText.toList).length = g.dims.rows ↔ _
  -- an empty last line leaves no trace, so the text has one row less, or the only one
  rcases plain.lines_cases with ⟨all, ending⟩ | before
  · rw [last, Ne, Option.some_inj, blank] at ending
    simp only [not_forall] at ending
    obtain ⟨c, col, ink⟩ := ending
    rw [all, counted]
    exact ⟨fun _ => Or.inr ⟨c, col, ink⟩, fun _ => by omega⟩
  · rw [before, List.getLast?_concat, Option.some_inj, eq_comm, blank] at last
    rw [before, List.length_append, List.length_singleton] at counted
    constructor
    · intro _
      left
      omega
    · rintro (one | ⟨c, col, ink⟩)
      · omega
      · exact absurd (last c col) ink

theorem Plain.cols_textDims_iff (cols : 0 < g.dims.cols) :
    (textDims g.toText).cols = g.dims.cols ↔ g.dims.cols = 1 ∨
      ∃ r < g.dims.rows, g.get? (r * g.dims.cols + (g.dims.cols - 1)) ≠ some blankCell := by
  -- the text is never wider than the grid, so it is as wide if some line is
  have bound : (textDims g.toText).cols ≤ g.dims.cols :=
    (cols_textDims_le_iff _ _).mpr ⟨cols, plain.fits_lines.wide⟩
  have least : 1 ≤ (textDims g.toText).cols :=
    ((cols_textDims_le_iff _ _).mp (Nat.le_refl _)).1
  constructor
  · intro same
    by_cases one : g.dims.cols = 1
    · exact Or.inl one
    · have longer : ¬ ∀ line ∈ Text.lines g.toText.toList, line.length ≤ g.dims.cols - 1 := by
        intro short
        have narrow := (cols_textDims_le_iff g.toText (g.dims.cols - 1)).mpr ⟨by omega, short⟩
        omega
      simp only [not_forall] at longer
      obtain ⟨line, member, long⟩ := longer
      have narrow := plain.fits_lines.wide line member
      have inked : line ≠ [] := List.ne_nil_of_length_pos (by omega)
      obtain ⟨r, row, rfl⟩ := g.mem_trimmedRows_iff.mp ((plain.mem_lines_iff inked).mp member)
      exact Or.inr ⟨r, row, (plain.length_trimEnd_row_iff row cols).mp (by omega)⟩
  · rintro (one | ⟨r, row, ink⟩)
    · omega
    · have whole := (plain.length_trimEnd_row_iff row cols).mpr ink
      have inked : Text.trimEnd (g.row r) ≠ [] := List.ne_nil_of_length_pos (by omega)
      have written := (plain.mem_lines_iff inked).mpr (g.mem_trimmedRows_iff.mpr ⟨r, row, rfl⟩)
      have wide := (fits_textDims g.toText).wide _ written
      omega

theorem Plain.fitText_toText_iff : fitText g.toText = g ↔
    (textDims g.toText).rows = g.dims.rows ∧ (textDims g.toText).cols = g.dims.cols := by
  constructor
  · intro same
    have dims : textDims g.toText = g.dims := by rw [← dims_fitText, same]
    rw [dims]
    exact ⟨rfl, rfl⟩
  · rintro ⟨rows, cols⟩
    have dims : textDims g.toText = ⟨g.dims.rows, g.dims.cols⟩ := by rw [← rows, ← cols]
    rw [fitText, dims, plain.ofText_toText]

end Plain

/-- The text of a grid whose only white space are blank cells gives the grid back when it is
read at its size, without a warning.  Read without the size, it gives the grid back exactly
if the text still shows the size: the last row is the only one or has a character, and so
has the last column. -/
theorem load_toText_eq_self (g : Grid)
    (plain : ∀ ch ∈ g.cells, Text.isBlank ch = true → ch = blankCell) :
    (load g.dims g.toText).value = g ∧ (load g.dims g.toText).log = #[] ∧
    (0 < g.dims.rows → 0 < g.dims.cols →
      (fitText g.toText = g ↔
        (g.dims.rows = 1 ∨ ∃ c < g.dims.cols,
          g.get? ((g.dims.rows - 1) * g.dims.cols + c) ≠ some blankCell) ∧
        (g.dims.cols = 1 ∨ ∃ r < g.dims.rows,
          g.get? (r * g.dims.cols + (g.dims.cols - 1)) ≠ some blankCell))) := by
  have clean : g.Plain := plain
  refine ⟨?_, ?_, ?_⟩
  · rw [value_load, clean.ofText_toText]
  · exact (log_load_eq_empty_iff _ _).mpr clean.fits_lines.not_spills
  · intro rows cols
    rw [clean.fitText_toText_iff, clean.rows_textDims_iff rows,
      clean.cols_textDims_iff cols]

/-- A blank row in the middle and a blank first column leave the size in the text. -/
theorem load_toText_eq_self_around_blank_row :
    let g := ofCells ⟨3, 3⟩ [' ', 'a', ' ', ' ', ' ', ' ', ' ', ' ', 'b']
    g.toText = " a\n\n  b" ∧ (load g.dims g.toText).value = g ∧ fitText g.toText = g := by
  intro g
  have plain : ∀ ch ∈ g.cells, Text.isBlank ch = true → ch = blankCell := by
    have checked : g.cells.all (fun ch => !Text.isBlank ch || ch == blankCell) = true := by
      decide +kernel
    intro ch member blank
    have sound := Array.all_eq_true_iff_forall_mem.mp checked ch member
    simpa [blank] using sound
  have written := load_toText_eq_self g plain
  exact ⟨by decide +kernel, written.1, (written.2.2 (by decide) (by decide)).mpr
    ⟨Or.inr ⟨2, by decide, by decide +kernel⟩, Or.inr ⟨2, by decide, by decide +kernel⟩⟩⟩

end StepLab.Grid
