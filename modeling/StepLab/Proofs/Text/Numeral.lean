import Mathlib.Algebra.Group.Nat.Defs
import StepLab.Proofs.Text.Lines
import StepLab.Text.Numeral

/-! # Numerals between white space

What a numeral is, without reading it: a plus sign or none, and then at least one decimal
digit, with a value that fits a 64-bit word.  Reading gives a value exactly for these, and
trimming first allows for white space around them.  No character of a numeral is white
space, so there is one way to take the white space off. -/

set_option autoImplicit false

namespace StepLab.Text

def Blank (text : List Char) : Prop :=
  ∀ c ∈ text, isBlank c = true

/-- Decimal digits, at least one, of a value that fits a 64-bit word. -/
structure Digits (text : List Char) (n : Nat) : Prop where
  ne_nil : text ≠ []
  isDigit : ∀ c ∈ text, c.isDigit = true
  value : Nat.ofDigitChars 10 text 0 = n
  fits : n ≤ 2 ^ 64 - 1

/-- Digits, with or without one plus sign in front. -/
def Numeral (text : List Char) (n : Nat) : Prop :=
  Digits text n ∨ ∃ digits, text = '+' :: digits ∧ Digits digits n

/-- White space, a numeral, and white space again. -/
def Spaced (text : List Char) (n : Nat) : Prop :=
  ∃ before numeral after, text = before ++ numeral ++ after ∧
    Blank before ∧ Numeral numeral n ∧ Blank after

/-! ## Reading -/

theorem dropPlus_of_ne {c : Char} (other : c ≠ '+') (rest : List Char) :
    dropPlus (c :: rest) = c :: rest := by
  unfold dropPlus
  split
  · rename_i same
    exact absurd (List.cons.inj same).1 other
  · rfl

theorem readWord?_eq_some_iff_digits (text : List Char) (n : Nat) :
    readWord? text = some n ↔ Digits (dropPlus text) n := by
  simp only [readWord?]
  constructor
  · intro read
    split at read
    · contradiction
    · rename_i digits
      simp only [Bool.or_eq_true, Bool.not_eq_true', List.isEmpty_iff, not_or, Bool.not_eq_false,
        List.all_eq_true] at digits
      split at read
      · rename_i fits
        cases read
        exact ⟨digits.1, digits.2, rfl, fits⟩
      · contradiction
  · rintro ⟨ne_nil, all, value, fits⟩
    have read : digitsValue (dropPlus text) = n := value
    have small : n ≤ wordMax := fits
    have digits : (dropPlus text).all isDigit = true := List.all_eq_true.mpr all
    simp [ne_nil, digits, read, small]

theorem digits_dropPlus_iff (text : List Char) (n : Nat) :
    Digits (dropPlus text) n ↔ Numeral text n := by
  constructor
  · intro digits
    cases text with
    | nil => exact Or.inl digits
    | cons c rest =>
        by_cases plus : c = '+'
        · subst plus
          exact Or.inr ⟨rest, rfl, digits⟩
        · rw [dropPlus_of_ne plus] at digits
          exact Or.inl digits
  · rintro (digits | ⟨unsigned, rfl, digits⟩)
    · cases text with
      | nil => exact digits
      | cons c rest =>
          have other : c ≠ '+' := by
            rintro rfl
            exact absurd (digits.isDigit '+' List.mem_cons_self) (by decide)
          rwa [dropPlus_of_ne other]
    · exact digits

theorem readWord?_eq_some_iff (text : List Char) (n : Nat) :
    readWord? text = some n ↔ Numeral text n :=
  (readWord?_eq_some_iff_digits text n).trans (digits_dropPlus_iff text n)

/-! ## White space -/

theorem isBlank_of_isDigit {c : Char} (digit : c.isDigit = true) : isBlank c = false := by
  have range : 48 ≤ c.toNat ∧ c.toNat ≤ 57 := by
    simpa [Char.isDigit, UInt32.le_iff_toNat_le] using digit
  simp only [isBlank, inRanges, blankRanges, List.any_cons, List.any_nil, Bool.or_false,
    Bool.or_eq_false_iff, Bool.and_eq_false_iff, decide_eq_false_iff_not]
  omega

/-- The characters of a numeral. -/
theorem Numeral.mem {text : List Char} {n : Nat} (numeral : Numeral text n) {c : Char}
    (member : c ∈ text) : c = '+' ∨ c.isDigit = true := by
  rcases numeral with digits | ⟨unsigned, rfl, digits⟩
  · exact Or.inr (digits.isDigit c member)
  · rcases List.mem_cons.mp member with plus | digit
    · exact Or.inl plus
    · exact Or.inr (digits.isDigit c digit)

theorem Numeral.not_isBlank {text : List Char} {n : Nat} (numeral : Numeral text n) {c : Char}
    (member : c ∈ text) : isBlank c = false := by
  rcases numeral.mem member with rfl | digit
  · decide
  · exact isBlank_of_isDigit digit

theorem trim_append (before core after : List Char) (blankBefore : Blank before)
    (blankAfter : Blank after) (inked : ∀ c ∈ core, isBlank c = false) :
    trim (before ++ core ++ after) = core := by
  have ending : trimEnd (core ++ after) = core := by
    have reversed : (core ++ after).reverse.dropWhile isBlank = core.reverse := by
      rw [List.reverse_append, List.dropWhile_append_of_pos]
      · cases mirrored : core.reverse with
        | nil => rfl
        | cons c rest =>
            have member : c ∈ core := by
              rw [← List.mem_reverse, mirrored]
              exact List.mem_cons_self
            rw [List.dropWhile_cons_of_neg (by simp [inked c member])]
      · intro c member
        exact blankAfter c (List.mem_reverse.mp member)
    rw [trimEnd, reversed, List.reverse_reverse]
  unfold trim
  rw [List.append_assoc, List.dropWhile_append_of_pos blankBefore]
  cases core with
  | nil =>
      have nothing : (after.dropWhile isBlank) = [] := List.dropWhile_eq_nil_iff.mpr blankAfter
      simp [nothing, trimEnd]
  | cons c rest =>
      have first : isBlank c = false := inked c List.mem_cons_self
      rw [List.cons_append, List.dropWhile_cons_of_neg (by simp [first])]
      exact ending

theorem exists_eq_append_trim (text : List Char) :
    ∃ before after, text = before ++ trim text ++ after ∧ Blank before ∧ Blank after := by
  refine ⟨text.takeWhile isBlank, (text.dropWhile isBlank).rtakeWhile isBlank, ?_, ?_, ?_⟩
  · rw [trim, trimEnd_eq_rdropWhile, List.append_assoc, List.rdropWhile_append_rtakeWhile,
      List.takeWhile_append_dropWhile]
  · intro c member
    exact List.mem_takeWhile_imp member
  · intro c member
    exact List.mem_rtakeWhile_imp member

theorem readWord?_trim_eq_some_iff (text : List Char) (n : Nat) :
    readWord? (trim text) = some n ↔ Spaced text n := by
  rw [readWord?_eq_some_iff]
  constructor
  · intro numeral
    obtain ⟨before, after, framed, blankBefore, blankAfter⟩ := exists_eq_append_trim text
    exact ⟨before, trim text, after, framed, blankBefore, numeral, blankAfter⟩
  · rintro ⟨before, core, after, rfl, blankBefore, numeral, blankAfter⟩
    have inked : ∀ c ∈ core, isBlank c = false := fun c member => numeral.not_isBlank member
    rwa [trim_append before core after blankBefore blankAfter inked]

/-- A character of a numeral between white space is white space, a plus sign or a digit. -/
theorem Spaced.mem {text : List Char} {n : Nat} (spaced : Spaced text n) {c : Char}
    (member : c ∈ text) : isBlank c = true ∨ c = '+' ∨ c.isDigit = true := by
  obtain ⟨before, core, after, rfl, blankBefore, numeral, blankAfter⟩ := spaced
  simp only [List.mem_append] at member
  rcases member with (left | inside) | right
  · exact Or.inl (blankBefore c left)
  · exact Or.inr (numeral.mem inside)
  · exact Or.inl (blankAfter c right)

/-! ## Writing -/

theorem numeral_toDigits {n : Nat} (fits : n ≤ 2 ^ 64 - 1) : Numeral (Nat.toDigits 10 n) n :=
  Or.inl {
    ne_nil := Nat.toDigits_ne_nil
    isDigit := fun _ member => Nat.isDigit_of_mem_toDigits (by decide) (by decide) member
    value := Nat.ofDigitChars_ten_toDigits
    fits }

theorem Numeral.spaced {text : List Char} {n : Nat} (numeral : Numeral text n) :
    Spaced text n :=
  ⟨[], text, [], by simp, by simp [Blank], numeral, by simp [Blank]⟩

end StepLab.Text
