import StepLab.Grid.Dims
import StepLab.Proofs.Text.Numeral

/-! # Written grid sizes

A written size is two numerals with a cross between them and white space anywhere around
the numerals.  The reader cuts at the first cross; neither white space nor a numeral holds
one, so that is the cross of the written size.  Hence a text is read exactly when it is a
written size, and a size is told from a grid without cells by the two values alone. -/

set_option autoImplicit false

namespace StepLab.Dims

/-- A numeral of the rows and one of the columns, each with white space around it, and a
cross between them. -/
def Written (text : List Char) (d : Dims) : Prop :=
  ∃ before cross after, text = before ++ cross :: after ∧ (cross = 'x' ∨ cross = 'X') ∧
    Text.Spaced before d.rows ∧ Text.Spaced after d.cols

theorem isCross_iff (c : Char) : isCross c = true ↔ c = 'x' ∨ c = 'X' := by
  simp [isCross]

theorem isCross_of_mem_spaced {text : List Char} {n : Nat} (spaced : Text.Spaced text n)
    {c : Char} (member : c ∈ text) : isCross c = false := by
  by_contra crossed
  have cross := (isCross_iff c).mp (by simpa using crossed)
  rcases cross with rfl | rfl
  · exact absurd (spaced.mem member) (by decide)
  · exact absurd (spaced.mem member) (by decide)

/-- A text is cut at its first cross. -/
theorem splitAtCross_eq_some_iff (text before after : List Char) :
    splitAtCross text = some (before, after) ↔
      ∃ cross, isCross cross = true ∧ text = before ++ cross :: after ∧
        ∀ c ∈ before, isCross c = false := by
  constructor
  · intro cut
    have whole := List.takeWhile_append_dropWhile (p := fun c => !isCross c) (l := text)
    cases rest : text.dropWhile (fun c => !isCross c) with
    | nil => simp [splitAtCross, rest] at cut
    | cons cross tail =>
        simp only [splitAtCross, rest, Option.some.injEq, Prod.mk.injEq] at cut
        obtain ⟨taken, rfl⟩ := cut
        rw [taken, rest] at whole
        refine ⟨cross, ?_, whole.symm, ?_⟩
        · have stopped := List.head_dropWhile_not (fun c => !isCross c) (l := text) (by simp [rest])
          simpa [rest] using stopped
        · intro c member
          rw [← taken] at member
          simpa using List.mem_takeWhile_imp member
  · rintro ⟨cross, crossed, rfl, clear⟩
    have passed : ∀ c ∈ before, (!isCross c) = true := by
      intro c member
      simp [clear c member]
    have dropped : (before ++ cross :: after).dropWhile (fun c => !isCross c) =
        cross :: after := by
      rw [List.dropWhile_append_of_pos passed, List.dropWhile_cons_of_neg (by simp [crossed])]
    have taken : (before ++ cross :: after).takeWhile (fun c => !isCross c) = before := by
      rw [List.takeWhile_append_of_pos passed, List.takeWhile_cons_of_neg (by simp [crossed])]
      simp
    simp [splitAtCross, dropped, taken]

theorem readNumerals?_eq_some_iff (text : List Char) (d : Dims) :
    readNumerals? text = some d ↔ Written text d := by
  unfold readNumerals?
  simp only [Option.bind_eq_bind, Option.bind_eq_some_iff, Prod.exists,
    Text.readWord?_trim_eq_some_iff, splitAtCross_eq_some_iff]
  constructor
  · rintro ⟨before, after, ⟨cross, crossed, whole, _⟩, rows, rowsRead, cols, colsRead, same⟩
    cases same
    exact ⟨before, cross, after, whole, (isCross_iff cross).mp crossed, rowsRead, colsRead⟩
  · rintro ⟨before, cross, after, whole, crossed, rowsRead, colsRead⟩
    have clear : ∀ c ∈ before, isCross c = false := fun c member =>
      isCross_of_mem_spaced rowsRead member
    exact ⟨before, after, ⟨cross, (isCross_iff cross).mpr crossed, whole, clear⟩,
      d.rows, rowsRead, d.cols, colsRead, rfl⟩

theorem Written.unique {text : List Char} {d other : Dims} (written : Written text d)
    (also : Written text other) : other = d := by
  rw [← readNumerals?_eq_some_iff] at written also
  exact Option.some.inj (also.symm.trans written)

theorem written_text (d : Dims) (rows : d.rows ≤ 2 ^ 64 - 1) (cols : d.cols ≤ 2 ^ 64 - 1) :
    Written d.text.toList d := by
  refine ⟨Nat.toDigits 10 d.rows, 'x', Nat.toDigits 10 d.cols, ?_, Or.inl rfl,
    (Text.numeral_toDigits rows).spaced, (Text.numeral_toDigits cols).spaced⟩
  simp [text]

/-! ## The answers of the reader -/

/-- The three answers, each with what the text is then. -/
theorem parse_cases (text : String) :
    (∃ d, Written text.toList d ∧ 1 ≤ d.rows ∧ 1 ≤ d.cols ∧ parse text = .ok d) ∨
    (∃ d, Written text.toList d ∧ (d.rows = 0 ∨ d.cols = 0) ∧
      parse text = .error (.emptyGrid d.rows d.cols)) ∨
    ((¬ ∃ d, Written text.toList d) ∧ parse text = .error (.invalidGridSize text)) := by
  cases read : readNumerals? text.toList with
  | none =>
      right
      right
      refine ⟨?_, by simp [parse, read]⟩
      rintro ⟨d, written⟩
      rw [(readNumerals?_eq_some_iff _ _).mpr written] at read
      contradiction
  | some d =>
      have written := (readNumerals?_eq_some_iff _ _).mp read
      by_cases bare : d.rows = 0 ∨ d.cols = 0
      · exact Or.inr (Or.inl ⟨d, written, bare, by simp [parse, read, bare]⟩)
      · exact Or.inl ⟨d, written, by omega, by omega, by simp [parse, read, bare]⟩

theorem parse_eq_ok_iff (text : String) (d : Dims) :
    parse text = .ok d ↔ Written text.toList d ∧ 1 ≤ d.rows ∧ 1 ≤ d.cols := by
  constructor
  · intro accepted
    rcases parse_cases text with ⟨e, written, rows, cols, answer⟩ | ⟨e, _, _, answer⟩ | ⟨_, answer⟩
    · rw [accepted] at answer
      cases answer
      exact ⟨written, rows, cols⟩
    · rw [accepted] at answer
      contradiction
    · rw [accepted] at answer
      contradiction
  · rintro ⟨written, rows, cols⟩
    rcases parse_cases text with ⟨e, also, _, _, answer⟩ | ⟨e, also, zero, _⟩ | ⟨none, _⟩
    · rw [answer, written.unique also]
    · rw [written.unique also] at zero
      omega
    · exact absurd ⟨d, written⟩ none

theorem parse_eq_emptyGrid_iff (text : String) (rows cols : Nat) :
    parse text = .error (.emptyGrid rows cols) ↔
      Written text.toList ⟨rows, cols⟩ ∧ (rows = 0 ∨ cols = 0) := by
  constructor
  · intro refused
    rcases parse_cases text with ⟨e, _, _, _, answer⟩ | ⟨e, written, zero, answer⟩ | ⟨_, answer⟩
    · rw [refused] at answer
      contradiction
    · rw [refused] at answer
      cases answer
      exact ⟨written, zero⟩
    · rw [refused] at answer
      cases answer
  · rintro ⟨written, zero⟩
    rcases parse_cases text with ⟨e, also, some, more, _⟩ | ⟨e, also, _, answer⟩ | ⟨none, _⟩
    · rw [written.unique also] at some more
      simp only at some more
      omega
    · rw [answer, written.unique also]
    · exact absurd ⟨_, written⟩ none

theorem parse_eq_invalidGridSize_iff (text : String) :
    parse text = .error (.invalidGridSize text) ↔ ¬ ∃ d, Written text.toList d := by
  rcases parse_cases text with ⟨d, written, _, _, answer⟩ | ⟨d, written, _, answer⟩ | ⟨none, answer⟩
  · rw [answer]
    exact ⟨nofun, fun none => absurd ⟨d, written⟩ none⟩
  · rw [answer]
    exact ⟨nofun, fun none => absurd ⟨d, written⟩ none⟩
  · exact ⟨fun _ => none, fun _ => answer⟩

/-- The reader gives a size for the texts that write one with a row and a column at least,
and no other.  It answers that the grid is empty, with both numbers, for the texts that
write a size with a zero, and that the text is no size in all other cases.  Every size
whose numbers fit a word is read back from its own text. -/
theorem parse_accepts_written_sizes :
    (∀ text : String,
      (∀ d, parse text = .ok d ↔ Written text.toList d ∧ 1 ≤ d.rows ∧ 1 ≤ d.cols) ∧
      (∀ rows cols, parse text = .error (.emptyGrid rows cols) ↔
        Written text.toList ⟨rows, cols⟩ ∧ (rows = 0 ∨ cols = 0)) ∧
      (parse text = .error (.invalidGridSize text) ↔ ¬ ∃ d, Written text.toList d)) ∧
    ∀ d : Dims, 1 ≤ d.rows → d.rows ≤ 2 ^ 64 - 1 → 1 ≤ d.cols → d.cols ≤ 2 ^ 64 - 1 →
      parse d.text = .ok d := by
  constructor
  · intro text
    exact ⟨parse_eq_ok_iff text, parse_eq_emptyGrid_iff text, parse_eq_invalidGridSize_iff text⟩
  · intro d rows rowsFit cols colsFit
    exact (parse_eq_ok_iff d.text d).mpr ⟨written_text d rowsFit colsFit, rows, cols⟩

/-- The widest size of one row is read back; a sign, zeros in front and white space of any
kind are part of a written size, but not a sign alone or a number past the last word. -/
theorem parse_accepts_written_sizes_up_to_last_word :
    parse (text ⟨1, 18446744073709551615⟩) = .ok ⟨1, 18446744073709551615⟩ ∧
      Written " +007X\u3000\n3".toList ⟨7, 3⟩ ∧
      (¬ ∃ d, Written "+x3".toList d) ∧ ¬ ∃ d, Written "1x18446744073709551616".toList d := by
  obtain ⟨reads, readsBack⟩ := parse_accepts_written_sizes
  refine ⟨readsBack _ (by decide) (by decide) (by decide) (by decide), ?_, ?_, ?_⟩
  · exact ((reads " +007X\u3000\n3").1 ⟨7, 3⟩).mp (by decide +kernel) |>.1
  · exact (reads "+x3").2.2.mp (by decide +kernel)
  · exact (reads "1x18446744073709551616").2.2.mp (by decide +kernel)

end StepLab.Dims
