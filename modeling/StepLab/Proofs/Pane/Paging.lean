import Mathlib.Data.List.DropRight
import StepLab.Pane.Output
import StepLab.Proofs.Screen.Wrap

/-! # Output on its way to the pane

The lines of an output spell it but for a newline at its end, which is written back where
the output has one.  The pane shows a block of consecutive lines, one in a row: as many as
it has room for, or all there are.  A scroll position says where the block starts, and one
that is too large means the last block.  What is said of the painted cells assumes one column
per character (see `GlyphRow.paintAt`); the block of lines does not depend on it. -/

set_option autoImplicit false

namespace StepLab

/-! ## The lines of an output -/

namespace Snapshot

variable (s : Snapshot)

theorem exists_pieces_concat :
    ∃ before last, Text.pieces s.state.output.toList = before ++ [last] := by
  rcases List.eq_nil_or_concat' (Text.pieces s.state.output.toList) with none | some
  · exact absurd none (Text.pieces_ne_nil _)
  · exact some

variable {s} {before : List (List Char)} {last : List Char}

theorem outputLines_of_pieces (cut : Text.pieces s.state.output.toList = before ++ [last]) :
    s.outputLines = if last = [] then before else before ++ [last] := by
  simp [outputLines, cut]

theorem output_of_pieces (cut : Text.pieces s.state.output.toList = before ++ [last]) :
    s.state.output.toList = Text.unlines (before ++ [last]) := by
  rw [← cut, Text.unlines_pieces]

/-- An output ends with a newline exactly when an empty piece follows another one. -/
theorem getLast?_output_iff (cut : Text.pieces s.state.output.toList = before ++ [last]) :
    s.state.output.toList.getLast? = some '\n' ↔ last = [] ∧ before ≠ [] := by
  rw [output_of_pieces cut]
  by_cases inked : last = []
  · subst inked
    rw [Text.unlines_concat_nil]
    by_cases none : before = []
    · simp [none, Text.unlines]
    · simp [none]
  · have unbroken : '\n' ∉ last :=
      Text.newline_not_mem_of_mem_pieces (cut ▸ List.mem_append_right before List.mem_cons_self)
    rw [Text.getLast?_unlines_concat before inked]
    simp only [inked, false_and, iff_false]
    intro ending
    exact unbroken (List.mem_of_getLast? ending)

variable (s)

theorem unlines_outputLines :
    Text.unlines s.outputLines ++
        (if s.state.output.toList.getLast? = some '\n' then ['\n'] else []) =
      s.state.output.toList := by
  obtain ⟨before, last, cut⟩ := s.exists_pieces_concat
  rw [outputLines_of_pieces cut]
  simp only [getLast?_output_iff cut]
  rw [output_of_pieces cut]
  by_cases inked : last = []
  · -- the empty piece is left out, and with it the newline before it, if there is one
    subst inked
    simp [Text.unlines_concat_nil]
  · simp [inked]

theorem newline_not_mem_of_mem_outputLines {line : List Char} (member : line ∈ s.outputLines) :
    '\n' ∉ line := by
  have piece : line ∈ Text.pieces s.state.output.toList := by
    simp only [outputLines] at member
    split at member
    · exact List.dropLast_subset _ member
    · exact member
  exact Text.newline_not_mem_of_mem_pieces piece

theorem outputLines_eq_nil_iff : s.outputLines = [] ↔ s.state.output = "" := by
  constructor
  · intro none
    have whole := s.unlines_outputLines
    rw [none] at whole
    split at whole
    · -- a newline alone is a line, an empty one
      have newline : s.state.output.toList = ['\n'] := whole.symm
      simp [outputLines, newline, Text.consPiece] at none
    · exact String.toList_eq_nil_iff.mp whole.symm
  · intro none
    simp [outputLines, none]

end Snapshot

namespace Picture

/-- Inside its area a list is drawn one text a row, from the left edge. -/
theorem paint_list_of_inside (area : Area) (style : Style) (content : List (List Char))
    (screen : Area) (x y : Nat) (cell : Cell) (inside : area.contains x y = true) :
    (list area style content).paint screen x y cell =
      match content[y - area.y]? with
      | some text =>
          GlyphRow.paintAt (Line.ofChars style text).toArray (x - area.x) (cell.restyle style)
      | none => cell := by
  cases found : content[y - area.y]? with
  | none => simp [list, within, inside, found]
  | some text => simp [list, within, inside, found]

end Picture

namespace OutputPane

/-! ## The block that is shown -/

variable {s : Snapshot} {height scroll : Nat}

theorem visibleLines_eq (height : Nat) : visibleLines height = max 1 (height - 2) :=
  Nat.max_comm _ _

theorem firstLine_eq_min (scroll total visible : Nat) :
    firstLine scroll total visible = min scroll (total - visible) := by
  unfold firstLine
  split <;> omega

theorem scrollAfter_of_printed (printed : s.outputLines ≠ []) :
    scrollAfter s height scroll =
      firstLine scroll s.outputLines.length (visibleLines height) := by
  simp [scrollAfter, printed]

theorem scrollAfter_scrollAfter :
    scrollAfter s height (scrollAfter s height scroll) = scrollAfter s height scroll := by
  by_cases printed : s.outputLines = []
  · -- without output the position is not touched
    simp [scrollAfter, printed]
  · simp only [scrollAfter_of_printed printed, firstLine_eq_min]
    omega

theorem shownLines_eq (s : Snapshot) (height scroll : Nat) :
    shownLines s height scroll =
      (s.outputLines.drop (firstLine scroll s.outputLines.length (visibleLines height))).take
        (visibleLines height) := by
  by_cases printed : s.outputLines = []
  · simp [shownLines, printed]
  · rw [shownLines, scrollAfter_of_printed printed]

theorem length_shownLines (s : Snapshot) (height scroll : Nat) :
    (shownLines s height scroll).length = min s.outputLines.length (visibleLines height) := by
  rw [shownLines_eq, List.length_take, List.length_drop, firstLine_eq_min]
  omega

/-- A position behind which there are no more lines than have room shows the last ones. -/
theorem shownLines_eq_rtake (late : s.outputLines.length - visibleLines height ≤ scroll) :
    shownLines s height scroll = s.outputLines.rtake (visibleLines height) := by
  rw [shownLines_eq, firstLine_eq_min, Nat.min_eq_right late, List.rtake]
  apply List.take_of_length_le
  rw [List.length_drop]
  omega

theorem shownLines_scrollAfter :
    shownLines s height (scrollAfter s height scroll) = shownLines s height scroll := by
  rw [shownLines, scrollAfter_scrollAfter, shownLines]

theorem draw_scrollAfter (area : Area) :
    draw area s (scrollAfter s area.height scroll) = draw area s scroll := by
  rw [draw, shownLines_scrollAfter, draw]

/-! ## The pane -/

def frame : Block := { title := " Output ", style := .ofFg Palette.border }

/-- Writes the character in a column of a line, if there is one, in the look of the pane. -/
def writeLine (shown : Option (List Char)) (column : Nat) (under : Cell) : Cell :=
  match shown with
  | some text =>
      let glyphs : Line := text.map fun char => { char, style := .ofFg Palette.text }
      GlyphRow.paintAt glyphs.toArray column (under.restyle (.ofFg Palette.text))
  | none => under

theorem paint_draw_of_printed (printed : s.outputLines ≠ []) (area screen : Area) (x y : Nat)
    (cell : Cell) :
    (draw area s scroll).paint screen x y cell =
      (Picture.list (area.inner.pad 1 0) (.ofFg Palette.text)
        (shownLines s area.height scroll)).paint screen x y
          ((frame.draw area).paint screen x y cell) := by
  simp only [draw, List.isEmpty_iff, printed, if_false]
  rfl

theorem row_lt_visibleLines {area : Area} {x y : Nat}
    (inside : (area.inner.pad 1 0).contains x y = true) :
    y - (area.inner.pad 1 0).y < visibleLines area.height := by
  obtain ⟨_, top, bottom⟩ := (Area.contains_iff _ _ _).mp inside
  simp only [visibleLines, Area.bottom, Area.pad, Area.inner] at top bottom ⊢
  omega

theorem paint_draw_of_inside (printed : s.outputLines ≠ []) {area : Area} {x y : Nat}
    (inside : (area.inner.pad 1 0).contains x y = true) (screen : Area) (cell : Cell) :
    (draw area s scroll).paint screen x y cell =
      writeLine
        s.outputLines[firstLine scroll s.outputLines.length (visibleLines area.height) +
          (y - (area.inner.pad 1 0).y)]?
        (x - (area.inner.pad 1 0).x) ((frame.draw area).paint screen x y cell) := by
  rw [paint_draw_of_printed printed, Picture.paint_list_of_inside _ _ _ _ _ _ _ inside,
    shownLines_eq, List.getElem?_take_of_lt (row_lt_visibleLines inside), List.getElem?_drop]
  cases line : s.outputLines[firstLine scroll s.outputLines.length (visibleLines area.height) +
      (y - (area.inner.pad 1 0).y)]? with
  | none => rfl
  | some text =>
      have unbroken := s.newline_not_mem_of_mem_outputLines (List.mem_of_getElem? line)
      simp only [writeLine, Line.ofChars_of_unbroken _ unbroken]

/-- The lines spell the output, with a newline at the end where it has one, and there are none
only where nothing is printed.  The pane shows a block of consecutive lines, as many as have
room if there are enough, from the scroll position on or from where the last block starts;
each row shows its line from the left edge.  The largest position shows the last lines, as
long as a machine word counts them, and drawing at the position that drawing leaves behind
changes nothing. -/
theorem output_reaches_pane (s : Snapshot) (area : Area) (scroll : Nat) :
    let output := s.state.output.toList
    let lines := s.outputLines
    let visible := max 1 (area.height - 2)
    let first := min scroll (lines.length - visible)
    let inner := area.inner.pad 1 0
    (Text.unlines lines ++ (if output.getLast? = some '\n' then ['\n'] else []) = output ∧
      (lines = [] ↔ s.state.output = "")) ∧
    (shownLines s area.height scroll = (lines.drop first).take visible ∧
      (shownLines s area.height scroll).length = min lines.length visible) ∧
    (lines ≠ [] → ∀ screen x y cell, inner.contains x y = true →
      (draw area s scroll).paint screen x y cell =
        writeLine lines[first + (y - inner.y)]? (x - inner.x)
          ((frame.draw area).paint screen x y cell)) ∧
    (lines.length ≤ newest → shownLines s area.height newest = lines.rtake visible) ∧
    (shownLines s area.height (scrollAfter s area.height scroll) =
        shownLines s area.height scroll ∧
      draw area s (scrollAfter s area.height scroll) = draw area s scroll) := by
  intro output lines visible first inner
  have room : visibleLines area.height = visible := visibleLines_eq area.height
  have start : firstLine scroll lines.length (visibleLines area.height) = first := by
    rw [firstLine_eq_min, room]
  refine ⟨⟨s.unlines_outputLines, s.outputLines_eq_nil_iff⟩, ⟨?_, ?_⟩, ?_, ?_,
    shownLines_scrollAfter, draw_scrollAfter area⟩
  · rw [shownLines_eq, start, room]
  · rw [length_shownLines, room]
  · intro printed screen x y cell inside
    rw [paint_draw_of_inside printed inside, start]
  · intro counted
    rw [← room]
    exact shownLines_eq_rtake (Nat.le_trans (Nat.sub_le _ _) counted)

/-- Four lines, the second and the last of them empty, in a pane with room for two: from the
second line on, and at the end. -/
theorem output_reaches_pane_with_blank_lines :
    let area : Area := { width := 6, height := 4 }
    let s : Snapshot := { state := { output := "a\n\nb\n\n" } }
    s.outputLines = [['a'], [], ['b'], []] ∧
    shownLines s 4 1 = [[], ['b']] ∧ ((draw area s 1).paint area 2 2 {}).glyph = 'b' ∧
    shownLines s 4 newest = [['b'], []] ∧ scrollAfter s 4 newest = 2 := by
  intro area s
  have lines : s.outputLines = [['a'], [], ['b'], []] := by decide +kernel
  obtain ⟨_, block, rows, last, _⟩ := output_reaches_pane s area 1
  refine ⟨lines, ?_, ?_, ?_, by decide +kernel⟩
  · rw [block.1, lines]
    rfl
  · rw [rows (by simp [lines]) area 2 2 {} (by decide), lines]
    rfl
  · rw [last (by simp [lines, newest, Text.wordMax]), lines]
    rfl

end OutputPane

end StepLab
