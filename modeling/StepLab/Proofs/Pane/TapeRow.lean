import StepLab.Pane.Memory
import StepLab.Proofs.Grid.Loading
import StepLab.Proofs.Screen.Wrap

/-! # The row of the tape

The memory pane shows a window of the tape.  It lies on the tape wherever the pointer is,
has all the cells there are or as many as the pane has room for, and has the cell under the
pointer.  A cell takes as many columns as the widest one needs, so that the row of the
window is as long as the window has cells, times that width.  Where one cell has room, so
has the row, and it is drawn unbroken. -/

set_option autoImplicit false

namespace StepLab.MemoryPane

/-! ## The window -/

theorem tapeWindow_on_tape (length pointer capacity : Nat) :
    (tapeWindow length pointer capacity).first ≤ (tapeWindow length pointer capacity).last ∧
      (tapeWindow length pointer capacity).last ≤ length := by
  unfold tapeWindow
  split
  · exact ⟨Nat.zero_le length, Nat.le_refl length⟩
  · dsimp only
    omega

theorem size_tapeWindow (length pointer capacity : Nat) :
    (tapeWindow length pointer capacity).last - (tapeWindow length pointer capacity).first =
      min length (max 1 capacity) := by
  unfold tapeWindow
  split <;> dsimp only <;> omega

theorem pointer_in_tapeWindow {length pointer : Nat} (inside : pointer < length)
    (capacity : Nat) :
    (tapeWindow length pointer capacity).first ≤ pointer ∧
      pointer < (tapeWindow length pointer capacity).last := by
  unfold tapeWindow
  split
  · exact ⟨Nat.zero_le pointer, inside⟩
  · dsimp only
    omega

/-! ## The texts of the cells -/

theorem isDigit_of_mem_repr {n : Nat} {c : Char} (member : c ∈ n.repr.toList) :
    c.isDigit = true := by
  rw [Nat.repr, String.toList_ofList] at member
  exact Nat.isDigit_of_mem_toDigits (by decide) (by decide) member

theorem not_mem_cellText {c : Char} (sign : c ≠ '-') (digit : c.isDigit = false)
    (cell : Int64) : c ∉ (cellText cell).toList := by
  change c ∉ cell.toInt.repr.toList
  intro member
  -- a natural number is all digits, a negative one has its sign in front of them
  cases value : cell.toInt with
  | ofNat n =>
      rw [value] at member
      simp [isDigit_of_mem_repr member] at digit
  | negSucc n =>
      rw [value, Int.repr, String.toList_append] at member
      rcases List.mem_append.mp member with minus | inside
      · exact sign (List.mem_singleton.mp minus)
      · simp [isDigit_of_mem_repr inside] at digit

theorem cellText_ne_nil (cell : Int64) : (cellText cell).toList ≠ [] := by
  change cell.toInt.repr.toList ≠ []
  cases cell.toInt with
  | ofNat n =>
      rw [Int.repr, Nat.repr, String.toList_ofList]
      exact Nat.toDigits_ne_nil
  | negSucc n => simp [Int.repr]

/-- A cell of the tape as it is shown in a width. -/
def cellChars (width : Nat) (cell : Int64) : List Char := center width (cellText cell).toList

theorem length_center {width : Nat} {text : List Char} (fits : text.length ≤ width) :
    (center width text).length = width := by
  simp only [center, List.length_append, List.length_replicate]
  omega

theorem mem_center {width : Nat} {text : List Char} {c : Char} (member : c ∈ center width text) :
    c = ' ' ∨ c ∈ text := by
  simp only [center, List.mem_append, List.mem_replicate] at member
  rcases member with (⟨_, space⟩ | inside) | ⟨_, space⟩
  · exact Or.inl space
  · exact Or.inr inside
  · exact Or.inl space

theorem newline_not_mem_cellChars (width : Nat) (cell : Int64) :
    '\n' ∉ cellChars width cell := by
  intro member
  rcases mem_center member with space | inside
  · exact absurd space (by decide)
  · exact not_mem_cellText (by decide) (by decide) cell inside

theorem exists_ink_cellChars (width : Nat) (cell : Int64) :
    ∃ c ∈ cellChars width cell, c ≠ ' ' := by
  obtain ⟨c, member⟩ := List.exists_mem_of_ne_nil _ (cellText_ne_nil cell)
  refine ⟨c, by simp [cellChars, center, member], ?_⟩
  rintro rfl
  exact not_mem_cellText (by decide) (by decide) cell member

theorem cellWidth_pos (tape : Array Int64) : 0 < cellWidth tape := Nat.succ_pos _

theorem length_cellText_le_cellWidth {tape : Array Int64} {cell : Int64} (member : cell ∈ tape) :
    (cellText cell).toList.length ≤ cellWidth tape := by
  have widest := (Grid.foldl_widest_le_iff
    (tape.toList.map fun cell => (cellText cell).toList) 0 _).mp (Nat.le_refl _)
  simp only [List.foldl_map, String.length_toList] at widest
  have shown := widest.2 _ (List.mem_map_of_mem (Array.mem_toList_iff.mpr member))
  have filled : tape.isEmpty = false :=
    Array.isEmpty_eq_false_iff.mpr (Array.ne_empty_of_mem member)
  simp only [cellWidth, filled, Bool.false_eq_true, if_false]
  exact Nat.le_add_right_of_le shown

theorem length_cellChars {tape : Array Int64} {cell : Int64} (member : cell ∈ tape) :
    (cellChars (cellWidth tape) cell).length = cellWidth tape :=
  length_center (length_cellText_le_cellWidth member)

/-! ## The row -/

/-- The cells of a tape that lie in a window. -/
def Window.cells (w : Window) (tape : Array Int64) : List Int64 :=
  tape.toList.extract w.first w.last

variable {view : View} {w : Window}

theorem Window.mem_of_mem_cells {tape : Array Int64} {cell : Int64}
    (member : cell ∈ w.cells tape) : cell ∈ tape :=
  Array.mem_toList_iff.mp (List.mem_of_mem_drop (List.mem_of_mem_take member))

theorem Window.length_cells {tape : Array Int64} (onTape : w.last ≤ tape.size) :
    (w.cells tape).length = w.last - w.first := by
  simp only [cells, List.extract_eq_take_drop, List.length_take, List.length_drop,
    Array.length_toList]
  omega

theorem map_char_tapeCell {i : Nat} {cell : Int64} (found : view.tape[i]? = some cell)
    (width : Nat) : (tapeCell view width i).map Glyph.char = cellChars width cell := by
  simp only [tapeCell, found, Option.map_some, Option.getD_some]
  exact Line.map_char_ofChars _ (newline_not_mem_cellChars width cell)

/-- The row shows the cells of the window in their order. -/
theorem map_char_tapeLine (onTape : w.last ≤ view.tape.size) :
    (tapeLine view w).map Glyph.char =
      (w.cells view.tape).flatMap (cellChars (cellWidth view.tape)) := by
  have texts : (List.range' w.first (w.last - w.first)).map
        (fun i => (tapeCell view (cellWidth view.tape) i).map Glyph.char) =
      (w.cells view.tape).map (cellChars (cellWidth view.tape)) := by
    apply List.ext_getElem
    · simp [Window.length_cells onTape]
    · intro i left right
      simp only [List.length_map, List.length_range'] at left
      have inside : w.first + i < view.tape.size := by omega
      simp only [List.getElem_map, List.getElem_range', Nat.one_mul, Window.cells,
        List.extract_eq_take_drop, List.getElem_take, List.getElem_drop, Array.getElem_toList]
      exact map_char_tapeCell (Array.getElem?_eq_getElem inside) _
  rw [tapeLine, List.map_flatMap, List.flatMap_def, texts, ← List.flatMap_def]

theorem length_tapeLine (onTape : w.last ≤ view.tape.size) :
    (tapeLine view w).length = (w.last - w.first) * cellWidth view.tape := by
  have widths : ∀ chars ∈ (w.cells view.tape).map (cellChars (cellWidth view.tape)),
      chars.length = cellWidth view.tape := by
    intro chars member
    obtain ⟨cell, shown, rfl⟩ := List.mem_map.mp member
    exact length_cellChars (Window.mem_of_mem_cells shown)
  rw [← List.length_map Glyph.char, map_char_tapeLine onTape, List.flatMap_def,
    Grid.length_flatten_of_length_eq _ _ widths, List.length_map, Window.length_cells onTape]

/-- A row of spaces alone is a row without cells. -/
theorem tapeLine_eq_nil_of_blank (onTape : w.last ≤ view.tape.size)
    (blank : ∀ g ∈ tapeLine view w, Wrap.isSpace g = true) : tapeLine view w = [] := by
  have chars : (tapeLine view w).map Glyph.char =
      (w.cells view.tape).flatMap (cellChars (cellWidth view.tape)) := map_char_tapeLine onTape
  cases shown : w.cells view.tape with
  | nil =>
      rw [shown] at chars
      exact List.map_eq_nil_iff.mp chars
  | cons cell rest =>
      -- the first cell has a digit, and a digit is no space
      obtain ⟨c, member, ink⟩ := exists_ink_cellChars (cellWidth view.tape) cell
      have drawn : c ∈ (tapeLine view w).map Glyph.char := by
        rw [chars, shown]
        exact List.mem_flatMap.mpr ⟨cell, List.mem_cons_self, member⟩
      obtain ⟨g, glyph, rfl⟩ := List.mem_map.mp drawn
      exact absurd (by simpa [Wrap.isSpace] using blank g glyph) ink

theorem rows_tapeLine {room : Nat} (onTape : w.last ≤ view.tape.size)
    (fits : (tapeLine view w).length ≤ room) :
    Wrap.rows room (tapeLine view w) = [tapeLine view w] :=
  Wrap.rows_of_fits fits (tapeLine_eq_nil_of_blank onTape)

/-! ## The pane -/

def frame : Block := { title := " Memory ", style := .ofFg Palette.border }

/-- What stands above the row of the tape. -/
def linesAbove (s : Snapshot) : List Line :=
  (if s.displays.register then [registerLine s.state] else []) ++ [pointerLine s.state]

theorem draw_of_tapeLine_fits {s : Snapshot} {area : Area} (displayed : s.displays.tape = true)
    (shown : window s.state area.width = w) (onTape : w.last ≤ s.state.tape.size)
    (fits : (tapeLine s.state w).length ≤ usableWidth area.width) :
    draw area s =
      .stack [frame.draw area, .lines (area.inner.pad 1 1) .left
        ((linesAbove s).flatMap (Wrap.rows (area.inner.pad 1 1).width) ++
          tapeLine s.state w ::
            (windowLines s.state w).flatMap (Wrap.rows (area.inner.pad 1 1).width))] := by
  have content : contentLines s area.width =
      linesAbove s ++ tapeLine s.state w :: windowLines s.state w := by
    simp [contentLines, linesAbove, displayed, shown]
  have whole : Wrap.rows (area.inner.pad 1 1).width (tapeLine s.state w) =
      [tapeLine s.state w] := rows_tapeLine onTape fits
  simp only [draw, content, List.flatMap_append, List.flatMap_cons, whole, List.singleton_append]
  rfl

/-- Whatever the tape, the pointer and the width of the pane: the window lies on the tape, has
the cells there are or as many as have room, one at least, and has the cell under the pointer,
if there is one.  The row shows these cells, each in the same width, and where one cell has
room, the row has room as well and is drawn as one line. -/
theorem tape_row_fits_pane (s : Snapshot) (area : Area) :
    let tape := s.state.tape
    let width := cellWidth tape
    let usable := usableWidth area.width
    let w := window s.state area.width
    let row := tapeLine s.state w
    let inner := area.inner.pad 1 1
    (w.first ≤ w.last ∧ w.last ≤ tape.size ∧
      w.last - w.first = min tape.size (max 1 (usable / width))) ∧
    (s.state.pointer < tape.size → w.first ≤ s.state.pointer ∧ s.state.pointer < w.last) ∧
    (row.map Glyph.char = (w.cells tape).flatMap (cellChars width) ∧
      (w.cells tape).length = w.last - w.first ∧
      ∀ cell ∈ w.cells tape, (cellChars width cell).length = width) ∧
    (width ≤ usable → row.length ≤ usable ∧ Wrap.rows inner.width row = [row] ∧
      (s.displays.tape = true →
        draw area s = .stack [frame.draw area, .lines inner .left
          ((linesAbove s).flatMap (Wrap.rows inner.width) ++
            row :: (windowLines s.state w).flatMap (Wrap.rows inner.width))])) := by
  intro tape width usable w row inner
  have place : w.first ≤ w.last ∧ w.last ≤ tape.size := tapeWindow_on_tape _ _ _
  have size : w.last - w.first = min tape.size (max 1 (usable / width)) := by
    have count : w.last - w.first = min tape.size (max 1 (max (usable / width) 1)) :=
      size_tapeWindow _ _ _
    rw [count]
    omega
  refine ⟨⟨place.1, place.2, size⟩, ?_,
    ⟨map_char_tapeLine place.2, Window.length_cells place.2, ?_⟩, ?_⟩
  · intro inside
    exact pointer_in_tapeWindow inside _
  · intro cell member
    exact length_cellChars (Window.mem_of_mem_cells member)
  · intro room
    -- with room for one cell, the window has no more cells than have room
    have one : 1 ≤ usable / width := (Nat.one_le_div_iff (cellWidth_pos tape)).mpr room
    have count : w.last - w.first ≤ usable / width := by omega
    have fits : row.length ≤ usable := by
      calc row.length = (w.last - w.first) * width := length_tapeLine place.2
        _ ≤ usable / width * width := Nat.mul_le_mul_right width count
        _ ≤ usable := Nat.div_mul_le_self usable width
    refine ⟨fits, rows_tapeLine place.2 fits, ?_⟩
    intro displayed
    exact draw_of_tapeLine_fits displayed rfl place.2 fits

/-- Seven cells of which two have room: those around the pointer, or the last two where the
pointer is past the tape; then they stand in the third row, below a broken line. -/
theorem tape_row_fits_pane_around_and_past_pointer :
    let area : Area := { width := 20, height := 6 }
    let s : Snapshot := {
      displays := { tape := true }
      state := { tape := #[0, -128, 5, 1000, 0, 3, 42], pointer := 4 } }
    let past : Snapshot := { s with state := { s.state with pointer := 9 } }
    let row := tapeLine s.state (window s.state 20)
    let pastRow := tapeLine past.state (window past.state 20)
    ((window s.state 20).first ≤ 4 ∧ 4 < (window s.state 20).last) ∧
    row.map Glyph.char = " 1000   0   ".toList ∧ Wrap.rows 16 row = [row] ∧
    window past.state 20 = ⟨5, 7⟩ ∧ Wrap.rows 16 pastRow = [pastRow] ∧
    ((draw area past).paint area 4 3 {}).glyph = '3' := by
  intro area s past row pastRow
  obtain ⟨_, inside, _, fits⟩ := tape_row_fits_pane s area
  obtain ⟨_, _, _, fitsPast⟩ := tape_row_fits_pane past area
  have room : cellWidth s.state.tape ≤ 16 := by decide +kernel
  refine ⟨inside (by decide), by decide +kernel, (fits room).2.1, by decide +kernel,
    (fitsPast room).2.1, ?_⟩
  have drawn := (fitsPast room).2.2 rfl
  rw [drawn]
  decide +kernel

end StepLab.MemoryPane
