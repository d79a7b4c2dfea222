import StepLab.Proofs.Text.Lines
import StepLab.Screen.Wrap

/-! # Lines that are not broken

A text without newlines becomes a line with all its characters.  A line that is no longer
than a row fills one row as it is, unless it consists of spaces alone.  While such a line is
read, no row is finished, and the row, the spaces and the word that are pending spell
together what has been read. -/

set_option autoImplicit false

namespace StepLab

theorem Line.ofChars_of_unbroken (style : Style) {text : List Char} (unbroken : '\n' ∉ text) :
    ofChars style text = text.map fun char => { char, style } := by
  rw [ofChars, Text.unbroken_eq_self unbroken]

theorem Line.map_char_ofChars (style : Style) {text : List Char} (unbroken : '\n' ∉ text) :
    (ofChars style text).map Glyph.char = text := by
  rw [ofChars_of_unbroken style unbroken, List.map_map]
  exact List.map_id _

namespace Wrap

variable {width : Nat} {s : State} {taken : Line} {g : Glyph}

/-- A state in which the glyphs taken in so far are all pending in one row. -/
structure OneRow (s : State) (taken : Line) : Prop where
  finished : s.finished = []
  content : s.row.toList ++ s.spaces.toList ++ s.word.toList = taken
  blank : ∀ g ∈ s.spaces, isSpace g = true
  word : s.inWord = false → s.word = #[]

theorem oneRow_start : OneRow {} [] := ⟨rfl, rfl, by simp, fun _ => rfl⟩

theorem OneRow.place (one : OneRow s taken) : OneRow s.place taken where
  finished := one.finished
  content := by simpa [State.place] using one.content
  blank := by simp [State.place]
  word := fun _ => rfl

theorem OneRow.placeBefore (one : OneRow s taken) (width : Nat) (g : Glyph) :
    OneRow (s.placeBefore width g) taken := by
  unfold State.placeBefore
  split
  · exact one.place
  · exact one

/-- A space ends the pending word. -/
theorem OneRow.word_placeBefore (one : OneRow s taken) (width : Nat) (space : isSpace g = true) :
    (s.placeBefore width g).word = #[] := by
  unfold State.placeBefore
  split
  · rfl
  · rename_i kept
    simp only [space, Bool.and_true, Bool.or_eq_true, not_or, Bool.not_eq_true] at kept
    exact one.word kept.1

theorem OneRow.isFull_eq_false (one : OneRow s taken) (room : taken.length < width) :
    s.isFull width = false := by
  have length := congrArg List.length one.content
  simp only [List.length_append, Array.length_toList] at length
  simp only [State.isFull, decide_eq_false_iff_not]
  omega

theorem OneRow.append (one : OneRow s taken) (apart : isSpace g = true → s.word = #[]) :
    OneRow (s.append g) (taken ++ [g]) := by
  unfold State.append
  cases space : isSpace g with
  | true =>
      have word := apart space
      refine ⟨one.finished, ?_, ?_, fun _ => word⟩
      · simp [← one.content, word]
      · intro pending member
        rcases Array.mem_push.mp member with before | rfl
        · exact one.blank pending before
        · exact space
  | false =>
      refine ⟨one.finished, ?_, one.blank, fun outside => by simp at outside⟩
      simp [← one.content]

theorem OneRow.feed (one : OneRow s taken) (g : Glyph) (room : taken.length < width) :
    OneRow (s.feed width g) (taken ++ [g]) := by
  have placed := one.placeBefore width g
  simp only [State.feed, placed.isFull_eq_false room, Bool.false_eq_true, if_false]
  exact placed.append (one.word_placeBefore width)

theorem OneRow.foldl (one : OneRow s taken) (line : Line)
    (fits : taken.length + line.length ≤ width) :
    OneRow (line.foldl (State.feed width) s) (taken ++ line) := by
  induction line generalizing s taken with
  | nil => simpa using one
  | cons g rest ih =>
      rw [List.length_cons] at fits
      rw [List.foldl_cons, List.append_cons]
      apply ih (one.feed g (by omega))
      rw [List.length_append, List.length_singleton]
      omega

theorem OneRow.close (one : OneRow s taken)
    (inked : (∀ g ∈ taken, isSpace g = true) → taken = []) : s.close = [taken] := by
  have content : (s.row ++ s.spaces ++ s.word).toList = taken := by
    simpa using one.content
  -- pending spaces alone would leave an empty row behind
  have noBlankRow : (s.row.isEmpty && s.word.isEmpty && !s.spaces.isEmpty) = false := by
    by_contra blank
    simp only [Bool.not_eq_false, Bool.and_eq_true, Array.isEmpty_iff, Bool.not_eq_true'] at blank
    obtain ⟨⟨row, word⟩, spaces⟩ := blank
    have all : s.spaces.toList = taken := by simpa [row, word] using one.content
    have none : taken = [] := inked fun g member => one.blank g (by simpa [← all] using member)
    rw [← all, Array.toList_eq_nil_iff] at none
    simp [none] at spaces
  simp only [State.close, content, noBlankRow, one.finished, Bool.false_eq_true, if_false]
  cases taken with
  | nil => rfl
  | cons g rest => rfl

theorem rows_of_fits {line : Line} (fits : line.length ≤ width)
    (inked : (∀ g ∈ line, isSpace g = true) → line = []) : rows width line = [line] :=
  (oneRow_start.foldl line (by simpa using fits)).close inked

end Wrap

end StepLab
