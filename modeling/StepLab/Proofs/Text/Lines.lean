import Mathlib.Data.List.DropRight
import StepLab.Text.Blank
import StepLab.Text.Lines

/-! # Writing lines and reading them back

Lines without line breaks are read back as they were written, but for one thing: an empty
last line leaves no trace, since the text then ends with a newline.  A line without white
space at its end has no line break at its end either. -/

set_option autoImplicit false

namespace StepLab.Text

/-! ## Pieces -/

theorem pieces_eq_splitOn (text : List Char) : pieces text = text.splitOn '\n' := by
  induction text with
  | nil => rfl
  | cons c rest ih =>
      rw [pieces_cons, ih, List.splitOn_eq_splitOnP, List.splitOn_eq_splitOnP,
        List.splitOnP_cons_eq_if_modifyHead]
      cases cut : rest.splitOnP (· == '\n') with
      | nil => exact absurd cut (List.splitOnP_ne_nil _ _)
      | cons piece others =>
          by_cases newline : c = '\n' <;> simp [consPiece, newline]

theorem pieces_unlines {ls : List (List Char)} (written : ls ≠ [])
    (unbroken : ∀ line ∈ ls, '\n' ∉ line) : pieces (unlines ls) = ls := by
  rw [pieces_eq_splitOn, unlines]
  exact List.splitOn_intercalate '\n' unbroken written

theorem unlines_pieces (text : List Char) : unlines (pieces text) = text := by
  rw [pieces_eq_splitOn, unlines]
  exact List.intercalate_splitOn '\n'

theorem newline_not_mem_of_mem_pieces {text piece : List Char} (member : piece ∈ pieces text) :
    '\n' ∉ piece := by
  induction text generalizing piece with
  | nil =>
      rw [List.mem_singleton.mp member]
      exact List.not_mem_nil
  | cons c rest ih =>
      rw [pieces_cons] at member
      cases cut : pieces rest with
      | nil => exact absurd cut (pieces_ne_nil rest)
      | cons first others =>
          rw [cut] at ih member
          simp only [consPiece] at member
          split at member
          · rcases List.mem_cons.mp member with rfl | old
            · exact List.not_mem_nil
            · exact ih old
          · rename_i printed
            rcases List.mem_cons.mp member with rfl | old
            · simp [ih List.mem_cons_self, Ne.symm printed]
            · exact ih (List.mem_cons_of_mem first old)

theorem unlines_concat {ls : List (List Char)} (written : ls ≠ []) (last : List Char) :
    unlines (ls ++ [last]) = unlines ls ++ '\n' :: last := by
  induction ls with
  | nil => contradiction
  | cons line rest ih =>
      cases rest with
      | nil => simp [unlines]
      | cons next others =>
          have after := ih (by simp)
          simp only [unlines, List.cons_append, List.intercalate_cons_cons] at after ⊢
          simp [after]

/-- An empty line after others is written as a newline at the end. -/
theorem unlines_concat_nil (ls : List (List Char)) :
    unlines (ls ++ [[]]) = unlines ls ++ (if ls = [] then [] else ['\n']) := by
  by_cases none : ls = []
  · simp [none, unlines]
  · rw [unlines_concat none, if_neg none]

theorem getLast?_unlines_concat (ls : List (List Char)) {last : List Char} (inked : last ≠ []) :
    (unlines (ls ++ [last])).getLast? = last.getLast? := by
  cases ls with
  | nil => simp [unlines]
  | cons line rest =>
      rw [unlines_concat (by simp), List.getLast?_append_of_ne_nil _ (by simp)]
      cases last with
      | nil => contradiction
      | cons c others => rfl

/-! ## Lines -/

/-- A line that is written and read back as it is. -/
structure Whole (line : List Char) : Prop where
  unbroken : '\n' ∉ line
  ending : line.getLast? ≠ some '\r'

theorem Whole.dropCarriageReturn {line : List Char} (whole : Whole line) :
    dropCarriageReturn line = line :=
  if_neg whole.ending

theorem lines_unlines_concat (ls : List (List Char)) (last : List Char)
    (whole : ∀ line ∈ ls, Whole line) (unbroken : '\n' ∉ last) :
    lines (unlines (ls ++ [last])) = ls ++ (if last.isEmpty then [] else [last]) := by
  have cut : pieces (unlines (ls ++ [last])) = ls ++ [last] := by
    apply pieces_unlines (by simp)
    intro line member
    rcases List.mem_append.mp member with before | final
    · exact (whole line before).unbroken
    · rwa [List.mem_singleton.mp final]
  have kept : ls.map dropCarriageReturn = ls := by
    have same := List.map_congr_left fun line member => (whole line member).dropCarriageReturn
    rw [same, List.map_id']
  rw [lines, cut, List.getLastD_concat, List.dropLast_concat, kept]

theorem lines_unlines_concat_nil (ls : List (List Char)) (whole : ∀ line ∈ ls, Whole line) :
    lines (unlines (ls ++ [[]])) = ls := by
  rw [lines_unlines_concat ls [] whole List.not_mem_nil]
  simp

theorem lines_unlines {ls : List (List Char)} (whole : ∀ line ∈ ls, Whole line)
    (ending : ls.getLast? ≠ some []) : lines (unlines ls) = ls := by
  rcases List.eq_nil_or_concat' ls with rfl | ⟨before, last, rfl⟩
  · rfl
  · have inked : last ≠ [] := by
      rintro rfl
      simp at ending
    have unbroken := (whole last (by simp)).unbroken
    rw [lines_unlines_concat before last (fun line member => whole line (by simp [member]))
      unbroken]
    simp [inked]

theorem unbroken_eq_self {line : List Char} (whole : '\n' ∉ line) : unbroken line = line := by
  have read := lines_unlines_concat [] line (by simp) whole
  have written : unlines ([] ++ [line]) = line := by simp [unlines]
  rw [written] at read
  rw [unbroken, read]
  cases line <;> simp

/-! ## White space at the end -/

theorem trimEnd_eq_rdropWhile (line : List Char) : trimEnd line = line.rdropWhile isBlank := rfl

theorem trimEnd_isPrefix (line : List Char) : trimEnd line <+: line :=
  List.rdropWhile_prefix isBlank line

theorem trimEnd_eq_nil_iff (line : List Char) : trimEnd line = [] ↔ ∀ c ∈ line, isBlank c :=
  List.rdropWhile_eq_nil_iff

theorem length_trimEnd_eq_iff (line : List Char) :
    (trimEnd line).length = line.length ↔ ∀ c ∈ line.getLast?, ¬ isBlank c := by
  have whole : (trimEnd line).length = line.length ↔ trimEnd line = line :=
    ⟨(trimEnd_isPrefix line).eq_of_length, congrArg List.length⟩
  rw [whole, trimEnd_eq_rdropWhile, List.rdropWhile_eq_self_iff]
  cases line with
  | nil => simp
  | cons c rest => simp [List.getLast?_eq_getLast_of_ne_nil]

theorem not_isBlank_of_getLast?_trimEnd {line : List Char} {c : Char}
    (last : (trimEnd line).getLast? = some c) : isBlank c = false := by
  have again : trimEnd (trimEnd line) = trimEnd line := List.rdropWhile_idempotent isBlank line
  have fixed := (length_trimEnd_eq_iff (trimEnd line)).mp (congrArg List.length again)
  simpa using fixed c last

theorem whole_trimEnd {line : List Char} (unbroken : '\n' ∉ line) : Whole (trimEnd line) where
  unbroken member := unbroken ((trimEnd_isPrefix line).mem member)
  ending last := absurd (not_isBlank_of_getLast?_trimEnd last) (by decide)

end StepLab.Text
