import StepLab.Proofs.Grid.Resize
import StepLab.Proofs.Grid.Writing

/-! # Texts on grids

A text that is laid onto a grid of a given size looks as if it had first been laid onto the
grid that fits it, and that grid had then been resized.  The fitting grid holds every
character of the text in its line and column.  Loading warns exactly about a text with a
character outside the given size, blank or not, while the resize only counts those that are
not blank. -/

set_option autoImplicit false

namespace StepLab.Grid

/-! ## The warning -/

theorem log_load_eq_warning_iff (d : Dims) (text : String) :
    (load d text).log = #[overflowWarning d] ↔ Spills d (Text.lines text.toList) := by
  rw [← overflows_iff_spills, load, Logged.log_bind, Logged.log_emitIf]
  cases overflows d text <;> simp

theorem log_load_eq_empty_iff (d : Dims) (text : String) :
    (load d text).log = #[] ↔ ¬ Spills d (Text.lines text.toList) := by
  rw [← overflows_iff_spills, load, Logged.log_bind, Logged.log_emitIf]
  cases overflows d text <;> simp

/-! ## The grid that fits a text -/

theorem foldl_widest_le_iff (lines : List (List Char)) (widest n : Nat) :
    lines.foldl (fun widest line => max widest line.length) widest ≤ n ↔
      widest ≤ n ∧ ∀ line ∈ lines, line.length ≤ n := by
  induction lines generalizing widest with
  | nil => simp
  | cons line rest ih =>
      rw [List.foldl_cons, ih, Nat.max_le, List.forall_mem_cons, and_assoc]

theorem cols_textDims_le_iff (text : String) (n : Nat) :
    (textDims text).cols ≤ n ↔ 1 ≤ n ∧ ∀ line ∈ Text.lines text.toList, line.length ≤ n :=
  foldl_widest_le_iff _ 1 n

theorem fits_textDims (text : String) : Fits (textDims text) (Text.lines text.toList) where
  tall := Nat.le_max_right 1 _
  wide := ((cols_textDims_le_iff text _).mp (Nat.le_refl _)).2

theorem fitText_eq_ofRows (text : String) :
    fitText text = ofRows (textDims text) (Text.lines text.toList) :=
  ofText_eq_ofRows (textDims text) text

theorem dims_fitText (text : String) : (fitText text).dims = textDims text := by
  rw [fitText_eq_ofRows, dims_ofRows]

/-- Copying the rows of the fitting grid gives what writing the lines at the new size gives. -/
theorem resized_fitText (text : String) (d : Dims) : (fitText text).resized d = ofText d text := by
  have same : fitRows d (fitRows (textDims text) (Text.lines text.toList)) =
      fitRows d (Text.lines text.toList) := by
    apply fitRows_fitRows
    · exact Nat.le_trans (Nat.min_le_left _ _) (fits_textDims text).tall
    · intro line member
      exact Nat.le_trans (Nat.min_le_left _ _) ((fits_textDims text).wide line member)
  rw [resized_eq_ofRows, fitText_eq_ofRows, ofText_eq_ofRows, rows_ofRows]
  exact ofRows_congr same

/-- The cells that the fitting grid adds are blank, so what a resize drops of it are
characters of the text. -/
theorem spills_of_dropped_pos {text : String} {d : Dims} (lost : 0 < (fitText text).dropped d) :
    Spills d (Text.lines text.toList) := by
  obtain ⟨r, c, ch, found, ink, outside⟩ := exists_entry_of_dropped_pos lost
  rw [fitText_eq_ofRows, rows_ofRows] at found
  have inside := (fits_fitRows _ _).inside_of_entry found
  rw [entry_fitRows _ _ inside.1 inside.2, Option.some_inj] at found
  refine ⟨r, c, ch, ?_, outside⟩
  cases written : entry (Text.lines text.toList) r c with
  | none =>
      rw [written, Option.getD_none] at found
      exact absurd found.symm ink
  | some here =>
      rw [written, Option.getD_some] at found
      rw [found]

/-- Loading a text at a given size is fitting it and then resizing.  Fitting keeps every
character in its line and column, without a warning.  Loading warns exactly when some
character lies outside the given size, so also whenever the resize does. -/
theorem load_eq_reflow_fitText (text : String) (d : Dims) :
    let lines := Text.lines text.toList
    let fitted := fitText text
    (load d text).value = (fitted.reflow d).value ∧
    ((load (textDims text) text).value = fitted ∧ (load (textDims text) text).log = #[]) ∧
    (∀ r < fitted.dims.rows, ∀ c < fitted.dims.cols,
      fitted.get? (r * fitted.dims.cols + c) = some ((entry lines r c).getD blankCell)) ∧
    (∀ r c ch, entry lines r c = some ch → r < fitted.dims.rows ∧ c < fitted.dims.cols) ∧
    ((load d text).log = #[overflowWarning d] ↔
      ∃ r c ch, entry lines r c = some ch ∧ (d.rows ≤ r ∨ d.cols ≤ c)) ∧
    ((load d text).log = #[] ↔
      ¬ ∃ r c ch, entry lines r c = some ch ∧ (d.rows ≤ r ∨ d.cols ≤ c)) ∧
    ((fitted.reflow d).log ≠ #[] → (load d text).log = #[overflowWarning d]) := by
  intro lines fitted
  have fits := fits_textDims text
  have laid : fitted = ofRows (textDims text) lines := fitText_eq_ofRows text
  have dims : fitted.dims = textDims text := dims_fitText text
  refine ⟨?_, ⟨value_load _ text, (log_load_eq_empty_iff _ text).mpr fits.not_spills⟩, ?_, ?_,
    log_load_eq_warning_iff d text, log_load_eq_empty_iff d text, ?_⟩
  · rw [value_load, value_reflow, resized_fitText]
  · intro r row c col
    rw [dims] at row col
    rw [dims, laid]
    exact get?_ofRows (textDims text) lines row col
  · intro r c ch written
    rw [dims]
    exact fits.inside_of_entry written
  · intro reported
    have lost : 0 < fitted.dropped d := by
      rw [reflow, Logged.log_bind, Logged.log_emitIf] at reported
      by_cases lost : 0 < fitted.dropped d
      · exact lost
      · simp [lost] at reported
    exact (log_load_eq_warning_iff d text).mpr (spills_of_dropped_pos lost)

/-- Four ragged lines on three rows of one column lose the letter of the last line, which the
resize reports too, and a blank, which only the load takes for a character. -/
theorem load_eq_reflow_fitText_of_ragged_lines :
    let text := "a\r\n\nb \nc"
    (fitText text).dims = ⟨4, 2⟩ ∧
      (load ⟨3, 1⟩ text).value = ofCells ⟨3, 1⟩ ['a', ' ', 'b'] ∧
      ((fitText text).reflow ⟨3, 1⟩).log ≠ #[] ∧
      (load ⟨3, 1⟩ text).log = #[overflowWarning ⟨3, 1⟩] := by
  have reported : ((fitText "a\r\n\nb \nc").reflow ⟨3, 1⟩).log ≠ #[] := by decide +kernel
  have loaded := load_eq_reflow_fitText "a\r\n\nb \nc" ⟨3, 1⟩
  exact ⟨by decide +kernel, by decide +kernel, reported, loaded.2.2.2.2.2.2 reported⟩

end StepLab.Grid
