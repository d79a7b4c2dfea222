import Mathlib.Data.List.Induction
import StepLab.Grid.Text
import StepLab.Proofs.Grid.Layout

/-! # Writing lines onto a blank grid

The loop over the lines of a text writes one cell after the other and stops a line at the
last column.  After any number of lines the grid is what `ofRows` makes of them, and a
character has been left out exactly if one of them lies outside the grid.  Both are shown for
one further line, and then for all lines by induction from the last one. -/

set_option autoImplicit false

namespace StepLab.Grid

/-! ## Characters outside a size -/

/-- Some character of the rows lies outside the given dimensions. -/
def Spills (d : Dims) (rows : List (List Char)) : Prop :=
  ∃ r c ch, entry rows r c = some ch ∧ (d.rows ≤ r ∨ d.cols ≤ c)

theorem Fits.not_spills {d : Dims} {rows : List (List Char)} (fits : Fits d rows) :
    ¬ Spills d rows := by
  rintro ⟨r, c, ch, found, outside⟩
  have inside := fits.inside_of_entry found
  omega

theorem entry_concat (lines : List (List Char)) (chars : List Char) (r c : Nat) :
    entry (lines ++ [chars]) r c = if r = lines.length then chars[c]? else entry lines r c := by
  by_cases last : r = lines.length
  · rw [if_pos last, entry, last, List.getElem?_concat_length, Option.bind_some]
  · rw [if_neg last, entry, entry]
    by_cases before : r < lines.length
    · rw [List.getElem?_append_left before]
    · rw [List.getElem?_eq_none (by simp; omega), List.getElem?_eq_none (by omega)]

theorem lt_length_of_entry {lines : List (List Char)} {r c : Nat} {ch : Char}
    (found : entry lines r c = some ch) : r < lines.length := by
  obtain ⟨chars, row, _⟩ := entry_eq_some_iff.mp found
  exact (List.getElem?_eq_some_iff.mp row).1

/-- A further line spills below the last row unless it is empty, and otherwise past the
last column. -/
theorem spills_concat_iff (d : Dims) (lines : List (List Char)) (chars : List Char) :
    Spills d (lines ++ [chars]) ↔
      Spills d lines ∨ (d.rows ≤ lines.length ∧ chars ≠ []) ∨ d.cols < chars.length := by
  constructor
  · rintro ⟨r, c, ch, found, outside⟩
    rw [entry_concat] at found
    by_cases last : r = lines.length
    · rw [if_pos last] at found
      have present : c < chars.length := (List.getElem?_eq_some_iff.mp found).1
      right
      rcases outside with below | beyond
      · exact Or.inl ⟨by omega, List.ne_nil_of_length_pos (by omega)⟩
      · exact Or.inr (by omega)
    · rw [if_neg last] at found
      exact Or.inl ⟨r, c, ch, found, outside⟩
  · rintro (⟨r, c, ch, found, outside⟩ | ⟨below, inked⟩ | long)
    · have before := lt_length_of_entry found
      exact ⟨r, c, ch, by rw [entry_concat, if_neg (by omega), found], outside⟩
    · have first : 0 < chars.length := List.length_pos_iff.mpr inked
      exact ⟨lines.length, 0, chars[0],
        by rw [entry_concat, if_pos rfl, List.getElem?_eq_getElem first], Or.inl below⟩
    · exact ⟨lines.length, d.cols, chars[d.cols],
        by rw [entry_concat, if_pos rfl, List.getElem?_eq_getElem long],
        Or.inr (Nat.le_refl _)⟩

/-! ## One line -/

theorem cell_ne_of_ne {d : Dims} {r k c j : Nat} (col : c < d.cols) (written : j < d.cols)
    (other : ¬ (r = k ∧ c = j)) : k * d.cols + j ≠ r * d.cols + c := by
  intro same
  have rows := (Dims.row_of_eq rfl written).symm.trans (Dims.row_of_eq same col)
  have cols := (Dims.col_of_eq rfl written).symm.trans (Dims.col_of_eq same col)
  exact other ⟨rows.symm, cols.symm⟩

theorem dims_writeFrom (k c : Nat) (chars : List Char) (sheet : Sheet) :
    (writeFrom k c chars sheet).grid.dims = sheet.grid.dims := by
  induction chars generalizing c sheet with
  | nil => rfl
  | cons ch rest ih =>
      rw [writeFrom]
      split
      · rfl
      · rw [ih, dims_set]

/-- Row `k` shows the characters from column `j` on, and all other cells are kept. -/
theorem get?_writeFrom {d : Dims} {k : Nat} (row : k < d.rows) (j : Nat) (chars : List Char)
    {sheet : Sheet} (dims : sheet.grid.dims = d) (r : Nat) {c : Nat} (col : c < d.cols) :
    (writeFrom k j chars sheet).grid.get? (r * d.cols + c) =
      if r = k ∧ j ≤ c then chars[c - j]?.or (sheet.grid.get? (r * d.cols + c))
      else sheet.grid.get? (r * d.cols + c) := by
  induction chars generalizing j sheet with
  | nil => simp [writeFrom]
  | cons ch rest ih =>
      rw [writeFrom, dims]
      by_cases full : d.cols ≤ j
      · rw [if_pos full, if_neg (by omega)]
      · have inside : k * d.cols + j < d.area := Dims.mul_add_lt_area row (Nat.lt_of_not_le full)
        rw [if_neg full, ih (j + 1) (by rw [dims_set, dims])]
        by_cases here : r = k ∧ c = j
        · obtain ⟨rfl, rfl⟩ := here
          rw [if_neg (by omega), if_pos (by omega), Nat.sub_self, List.getElem?_cons_zero,
            Option.some_or]
          exact get?_set_self _ _ _ (by rw [dims]; exact inside)
        -- the cell that is written now is not written again, and no other cell changes now
        · rw [get?_set_of_ne _ _ _ _ (cell_ne_of_ne col (by omega) here)]
          by_cases after : r = k ∧ j < c
          · rw [if_pos (by omega), if_pos (by omega), show c - j = c - (j + 1) + 1 by omega,
              List.getElem?_cons_succ]
          · rw [if_neg (by omega), if_neg (by omega)]

theorem truncated_writeFrom {d : Dims} (k : Nat) {j : Nat} (start : j ≤ d.cols)
    (chars : List Char) {sheet : Sheet} (dims : sheet.grid.dims = d) :
    (writeFrom k j chars sheet).truncated = true ↔
      sheet.truncated = true ∨ d.cols < j + chars.length := by
  induction chars generalizing j sheet with
  | nil =>
      have short : ¬ d.cols < j := by omega
      simp [writeFrom, short]
  | cons ch rest ih =>
      rw [writeFrom, dims, List.length_cons]
      by_cases full : d.cols ≤ j
      · have long : d.cols < j + (rest.length + 1) := by omega
        simp [full, long]
      · rw [if_neg full, ih (by omega) (by rw [dims_set, dims]), Nat.add_right_comm, Nat.add_assoc]

/-! ## All lines -/

/-- What the loop has made of the lines so far. -/
structure Holds (d : Dims) (lines : List (List Char)) (sheet : Sheet) : Prop where
  grid : sheet.grid = ofRows d lines
  truncated : sheet.truncated = true ↔ Spills d lines

theorem holds_empty (d : Dims) : Holds d [] { grid := empty d } where
  grid := by
    apply eq_ofRows (dims_empty d)
    intro r row c col
    have inside : r * d.cols + c < d.area := Dims.mul_add_lt_area row col
    simp [get?, empty, inside, entry]
  truncated := by simp [Spills, entry]

section Step

variable {d : Dims} {lines : List (List Char)} {sheet : Sheet}

theorem Holds.dims (held : Holds d lines sheet) : sheet.grid.dims = d := by
  rw [held.grid, dims_ofRows]

theorem Holds.of_below (held : Holds d lines sheet) (below : d.rows ≤ lines.length)
    (chars : List Char) :
    Holds d (lines ++ [chars]) { sheet with truncated := sheet.truncated || !chars.isEmpty } where
  grid := by
    apply eq_ofRows held.dims
    intro r row c col
    rw [held.grid, get?_ofRows d lines row col, entry_concat, if_neg (by omega)]
  truncated := by
    have long : d.cols < chars.length → chars ≠ [] := fun long =>
      List.ne_nil_of_length_pos (Nat.zero_lt_of_lt long)
    rw [spills_concat_iff, ← held.truncated]
    simp only [Bool.or_eq_true, Bool.not_eq_true', List.isEmpty_eq_false_iff]
    exact or_congr Iff.rfl ⟨fun inked => Or.inl ⟨below, inked⟩, fun cut => cut.elim And.right long⟩

theorem Holds.writeFrom (held : Holds d lines sheet) (inside : lines.length < d.rows)
    (chars : List Char) : Holds d (lines ++ [chars]) (writeFrom lines.length 0 chars sheet) where
  grid := by
    apply eq_ofRows (by rw [dims_writeFrom, held.dims])
    intro r row c col
    rw [get?_writeFrom inside 0 chars held.dims r col, held.grid, get?_ofRows d lines row col,
      entry_concat]
    by_cases here : r = lines.length
    -- no line before has this row, so what the line leaves is blank
    · have fresh : entry lines r c = none := by
        cases found : entry lines r c with
        | none => rfl
        | some ch =>
            have before := lt_length_of_entry found
            omega
      rw [if_pos ⟨here, Nat.zero_le c⟩, if_pos here, fresh, Nat.sub_zero]
      cases chars[c]? with
      | none => rfl
      | some ch => rfl
    · rw [if_neg (by omega), if_neg here]
  truncated := by
    rw [truncated_writeFrom lines.length (Nat.zero_le _) chars held.dims, spills_concat_iff,
      held.truncated, Nat.zero_add]
    exact or_congr Iff.rfl
      ⟨Or.inr, fun cut => cut.resolve_left fun last => Nat.not_le_of_lt inside last.1⟩

/-- One round of the loop. -/
theorem Holds.writeLine (held : Holds d lines sheet) (chars : List Char) :
    Holds d (lines ++ [chars]) (writeLine sheet (chars, lines.length)) := by
  rw [Grid.writeLine, held.dims]
  by_cases below : d.rows ≤ lines.length
  · rw [if_pos below]
    exact held.of_below below chars
  · rw [if_neg below]
    exact held.writeFrom (Nat.lt_of_not_le below) chars

end Step

theorem holds_writeLines (d : Dims) (lines : List (List Char)) :
    Holds d lines (writeLines d lines) := by
  induction lines using List.reverseRecOn with
  | nil => exact holds_empty d
  | append_singleton before chars ih =>
      rw [writeLines, List.zipIdx_append, List.foldl_append, Nat.zero_add]
      exact ih.writeLine chars

/-- The loop over the lines lays them out. -/
theorem ofText_eq_ofRows (d : Dims) (text : String) :
    ofText d text = ofRows d (Text.lines text.toList) :=
  (holds_writeLines d _).grid

theorem overflows_iff_spills (d : Dims) (text : String) :
    overflows d text = true ↔ Spills d (Text.lines text.toList) :=
  (holds_writeLines d _).truncated

end StepLab.Grid
