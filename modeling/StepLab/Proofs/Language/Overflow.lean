import Mathlib.Algebra.Group.Int.Defs
import Mathlib.Algebra.Group.Nat.Defs
import StepLab.Proofs.Language.Laps

/-! # Words that do not overflow

Cells and registers are words, and the machines on a tape alone count in them without a
check.  They need none: one step raises a cell by one at most, so after `n` steps no cell
is above `n`, and a run of `2 ^ 63 - 1` steps keeps all of them in the range of words.

Nor do they leave it at the other end.  Stun Step lowers a cell, and leaves it, only when
it is not zero, so the one cell that can be zero is the current one.  Suffolk puts no cell
below zero, and its register neither: the only sum on the register stops at the largest
word, which many cells added up can reach. -/

set_option autoImplicit false

namespace StepLab

namespace Word

/-! ## Exact arithmetic -/

/-- Whether the sum of two words is no word. -/
def addOverflows (a b : Int64) : Bool := a.toBitVec.saddOverflow b.toBitVec

/-- Whether the difference of two words is no word. -/
def subOverflows (a b : Int64) : Bool := a.toBitVec.ssubOverflow b.toBitVec

variable {a b : Int64}

theorem addOverflows_eq_false_iff :
    addOverflows a b = false ↔ -2 ^ 63 ≤ a.toInt + b.toInt ∧ a.toInt + b.toInt < 2 ^ 63 := by
  simp only [addOverflows, BitVec.saddOverflow, Int64.toInt_toBitVec, Bool.or_eq_false_iff,
    decide_eq_false_iff_not]
  omega

theorem subOverflows_eq_false_iff :
    subOverflows a b = false ↔ -2 ^ 63 ≤ a.toInt - b.toInt ∧ a.toInt - b.toInt < 2 ^ 63 := by
  simp only [subOverflows, BitVec.ssubOverflow, Int64.toInt_toBitVec, Bool.or_eq_false_iff,
    decide_eq_false_iff_not]
  omega

theorem toInt_add_of_fits (fits : addOverflows a b = false) :
    (a + b).toInt = a.toInt + b.toInt :=
  BitVec.toInt_add_of_not_saddOverflow (Bool.eq_false_iff.mp fits)

theorem toInt_sub_of_fits (fits : subOverflows a b = false) :
    (a - b).toInt = a.toInt - b.toInt :=
  BitVec.toInt_sub_of_not_ssubOverflow (Bool.eq_false_iff.mp fits)

theorem toInt_max (a b : Int64) : (max a b).toInt = max a.toInt b.toInt := by
  show (if a ≤ b then b else a).toInt = _
  simp only [Int64.le_iff_toInt_le]
  split <;> omega

theorem toInt_saturate (n : Int) :
    (saturate n).toInt = max (-2 ^ 63) (min n (2 ^ 63 - 1)) := by
  unfold saturate
  rw [Int64.toInt_minValue, Int64.toInt_maxValue]
  split
  · rw [Int64.toInt_minValue]
    omega
  · split
    · rw [Int64.toInt_maxValue]
      omega
    · rw [Int64.toInt_ofInt_of_le (by omega) (by omega)]
      omega

theorem toInt_eq_zero_iff : a.toInt = 0 ↔ a = 0 := by
  rw [← Int64.toInt_inj, Int64.toInt_zero]

end Word

namespace Tape

variable {t : Tape} {n : Nat}

theorem getElem?_pointer (inside : t.Inside) : t.cells[t.pointer]? = some t.current := by
  rw [current, Array.getElem?_eq_getElem inside, Option.getD_some]

theorem size_cells_right_le (fresh : Int64) : (t.right fresh).cells.size ≤ t.cells.size + 1 := by
  unfold right
  split
  · simp
  · exact Nat.le_succ _

/-- Every cell counts something that has happened at most `n` times. -/
def Counts (n : Nat) (t : Tape) : Prop := ∀ cell ∈ t.cells, 0 ≤ cell.toInt ∧ cell.toInt ≤ n

namespace Counts

theorem start : Counts 0 {} := by
  intro cell member
  obtain rfl : cell = 0 := by simpa using member
  decide

theorem later (counts : t.Counts n) : t.Counts (n + 1) := by
  intro cell member
  obtain ⟨low, high⟩ := counts cell member
  omega

theorem current (counts : t.Counts n) (inside : t.Inside) :
    0 ≤ t.current.toInt ∧ t.current.toInt ≤ n :=
  counts _ (Array.mem_of_getElem? (getElem?_pointer inside))

theorem write (counts : t.Counts n) {cell : Int64} (low : 0 ≤ cell.toInt)
    (high : cell.toInt ≤ n + 1) : (t.write cell).Counts (n + 1) := by
  intro other member
  rcases Array.mem_or_eq_of_mem_setIfInBounds member with old | rfl
  · exact counts.later other old
  · exact ⟨low, by omega⟩

theorem right (counts : t.Counts n) {fresh : Int64} (low : 0 ≤ fresh.toInt)
    (high : fresh.toInt ≤ 1) : (t.right fresh).Counts (n + 1) := by
  intro cell member
  have known : cell ∈ t.cells ∨ cell = fresh := by
    unfold Tape.right at member
    split at member
    · exact Array.mem_push.mp member
    · exact Or.inl member
  rcases known with old | rfl
  · exact counts.later cell old
  · exact ⟨low, by omega⟩

end Counts

end Tape

namespace StunStep

/-! ## Stun Step -/

/-- Whether the arithmetic of the step from a state leaves the words. -/
def State.overflows (s : State) : Bool :=
  match s.code[s.index]? with
  | some .raise => Word.addOverflows s.tape.current 1
  | some .lower => s.tape.current ≠ 0 && Word.subOverflows s.tape.current 1
  | some .right | some .left | none => false

/-- What is true of the tape after `n` steps. -/
structure Bounded (n : Nat) (t : Tape) : Prop where
  counts : t.Counts n
  zero : ∀ i, t.cells[i]? = some 0 → i = t.pointer

namespace Bounded

variable {n : Nat} {t : Tape}

theorem start : Bounded 0 {} where
  counts := Tape.Counts.start
  zero i found := by
    obtain ⟨inside, _⟩ := Array.getElem?_eq_some_iff.mp found
    exact Nat.lt_one_iff.mp inside

theorem later (bounded : Bounded n t) : Bounded (n + 1) t :=
  ⟨bounded.counts.later, bounded.zero⟩

theorem write (bounded : Bounded n t) {cell : Int64} (low : 0 ≤ cell.toInt)
    (high : cell.toInt ≤ n + 1) : Bounded (n + 1) (t.write cell) where
  counts := bounded.counts.write low high
  zero i found := by
    by_contra elsewhere
    have other : t.pointer ≠ i := Ne.symm elsewhere
    rw [Tape.write, Array.getElem?_setIfInBounds, if_neg other] at found
    exact elsewhere (bounded.zero i found)

theorem ne_zero (bounded : Bounded n t) (positive : t.current ≠ 0) (i : Nat) :
    t.cells[i]? ≠ some 0 := by
  intro found
  have here := bounded.zero i found
  apply positive
  rw [Tape.current, ← here, found, Option.getD_some]

/-- The pointer may leave a cell that is not zero, wherever it goes. -/
theorem moved (bounded : Bounded n t) (positive : t.current ≠ 0) (pointer : Nat) :
    Bounded n { t with pointer } where
  counts := bounded.counts
  zero i found := absurd found (bounded.ne_zero positive i)

theorem right (bounded : Bounded n t) (positive : t.current ≠ 0) :
    Bounded (n + 1) (t.right 1) where
  counts := bounded.counts.right (by decide) (by decide)
  zero i found := by
    have none := bounded.ne_zero positive i
    unfold Tape.right at found
    split at found
    · rw [Array.getElem?_push] at found
      split at found
      · cases found
      · exact absurd found none
    · exact absurd found none

theorem raise_fits (bounded : Bounded n t) (inside : t.Inside) (inTime : n + 1 < 2 ^ 63) :
    Word.addOverflows t.current 1 = false := by
  obtain ⟨low, high⟩ := bounded.counts.current inside
  rw [Word.addOverflows_eq_false_iff, Int64.toInt_one]
  omega

theorem lower_fits (bounded : Bounded n t) (inside : t.Inside) :
    Word.subOverflows t.current 1 = false := by
  obtain ⟨low, _⟩ := bounded.counts.current inside
  have word := t.current.toInt_lt
  rw [Word.subOverflows_eq_false_iff, Int64.toInt_one]
  omega

theorem perform (bounded : Bounded n t) (inside : t.Inside) (inTime : n + 1 < 2 ^ 63)
    {op : Op} {after : Tape} (performed : StunStep.perform op t = .ok after) :
    Bounded (n + 1) after := by
  obtain ⟨low, high⟩ := bounded.counts.current inside
  cases op with
  | raise =>
      rw [StunStep.perform, Tape.update_of_inside t inside] at performed
      cases performed
      have sum := Word.toInt_add_of_fits (bounded.raise_fits inside inTime)
      rw [Int64.toInt_one] at sum
      exact bounded.write (by omega) (by omega)
  | lower =>
      by_cases zero : t.current = 0
      · rw [StunStep.perform, if_pos zero] at performed
        cases performed
        exact bounded.later
      · rw [StunStep.perform, if_neg zero, Tape.update_of_inside t inside] at performed
        cases performed
        have difference := Word.toInt_sub_of_fits (bounded.lower_fits inside)
        rw [Int64.toInt_one] at difference
        have positive : t.current.toInt ≠ 0 := mt Word.toInt_eq_zero_iff.mp zero
        exact bounded.write (by omega) (by omega)
  | right =>
      by_cases zero : t.current = 0
      · rw [StunStep.perform, if_pos zero] at performed
        cases performed
        exact bounded.later
      · rw [StunStep.perform, if_neg zero] at performed
        cases performed
        exact bounded.right zero
  | left =>
      by_cases zero : t.current = 0
      · rw [StunStep.perform, if_pos zero] at performed
        cases performed
        exact bounded.later
      · rw [StunStep.perform, if_neg zero] at performed
        cases performed
        exact bounded.later.moved zero (t.pointer - 1)

theorem not_overflows {s : State} (bounded : Bounded n s.tape) (inside : s.tape.Inside)
    (inTime : n + 1 < 2 ^ 63) : s.overflows = false := by
  unfold State.overflows
  split
  · exact bounded.raise_fits inside inTime
  · rw [bounded.lower_fits inside, Bool.and_false]
  · rfl
  · rfl
  · rfl

end Bounded

theorem tape_run_succ_cases (program : Program) (n : Nat) :
    (run program (n + 1)).tape = (run program n).tape ∨
      ∃ op, perform op (run program n).tape = .ok (run program (n + 1)).tape := by
  by_cases resting : Resting (run program n)
  · rw [run_succ, step_of_resting resting]
    exact Or.inl rfl
  · have walks := walks_run resting
    cases found : (readCode program.toText)[(run program n).control.index]? with
    | none => exact Or.inl (walks.passed found)
    | some op => exact Or.inr ⟨op, walks.acted op found⟩

theorem bounded_run {program : Program} {n : Nat} (inTime : n < 2 ^ 63) :
    Bounded n (run program n).tape := by
  induction n with
  | zero => exact Bounded.start
  | succ n ih =>
      have bounded := ih (by omega)
      rcases tape_run_succ_cases program n with kept | ⟨op, performed⟩
      · rw [kept]
        exact bounded.later
      · exact bounded.perform (sound_run n).inside inTime performed

/-- For fewer than `2 ^ 63` steps no cell is above the number of steps, none but the current
one is below one, and that one is not negative; so no step before overflowed. -/
theorem cells_stay_in_words (program : Program) (n : Nat) (inTime : n < 2 ^ 63) :
    let tape := (run program n).tape
    (∀ i, i ≠ tape.pointer → ∀ cell, tape.cells[i]? = some cell → 1 ≤ cell.toInt) ∧
      (∃ cell, tape.cells[tape.pointer]? = some cell ∧ 0 ≤ cell.toInt) ∧
      (∀ cell ∈ tape.cells, cell.toInt ≤ n) ∧
      (∀ i, tape.cells[i]? = some 0 → i = tape.pointer) ∧
      ∀ m < n, (run program m).overflows = false := by
  intro tape
  have bounded : Bounded n tape := bounded_run inTime
  have inside : tape.Inside := (sound_run n).inside
  refine ⟨?_, ?_, ?_, bounded.zero, ?_⟩
  · intro i elsewhere cell found
    have low := (bounded.counts cell (Array.mem_of_getElem? found)).1
    have positive : cell.toInt ≠ 0 := by
      intro zero
      rw [Word.toInt_eq_zero_iff.mp zero] at found
      exact elsewhere (bounded.zero i found)
    omega
  · exact ⟨_, Tape.getElem?_pointer inside, (bounded.counts.current inside).1⟩
  · intro cell member
    exact (bounded.counts cell member).2
  · intro m earlier
    exact (bounded_run (by omega)).not_overflows (sound_run m).inside (by omega)

/-- A second cell is lowered to zero: the zero is where the pointer is. -/
theorem cells_stay_in_words_past_second_cell :
    let program := Program.text "+>-"
    let tape := (run program 3).tape
    tape.cells = #[1, 0] ∧ tape.pointer = 1 ∧
      (∀ i : Nat, tape.cells[i]? = some 0 → i = 1) ∧ (∀ cell ∈ tape.cells, cell.toInt ≤ 3) ∧
      ∀ m < 3, (run program m).overflows = false := by
  intro program tape
  have pointer : tape.pointer = 1 := by decide +kernel
  obtain ⟨_, _, high, zero, fits⟩ := cells_stay_in_words program 3 (by decide)
  exact ⟨by decide +kernel, pointer, fun i found => (zero i found).trans pointer, high, fits⟩

end StunStep

namespace Suffolk

/-! ## Suffolk -/

/-- Whether a difference that the step from a state computes leaves the words. -/
def State.overflows (s : State) : Bool :=
  match s.code[s.index]? with
  | some .settle =>
      Word.subOverflows s.register 1 || Word.subOverflows s.tape.current (s.register - 1)
  | some .write => 0 < s.register && Word.subOverflows s.register 1
  | some .right | some .collect | some .read | none => false

/-- What is true of the memory after `n` steps. -/
structure Bounded (n : Nat) (s : State) : Prop where
  register : 0 ≤ s.register.toInt
  counts : s.tape.Counts n
  size : s.tape.cells.size ≤ n + 1

theorem perform_collect_of_inside {s : State} (inside : s.tape.Inside) :
    perform .collect s =
      .ok { s with register := Word.add s.register s.tape.current, tape := s.tape.rewind } := by
  rw [perform, Tape.read_of_inside s.tape inside]
  rfl

namespace Bounded

variable {n : Nat} {s : State}

theorem later (bounded : Bounded n s) : Bounded (n + 1) s :=
  ⟨bounded.register, bounded.counts.later, Nat.le_succ_of_le bounded.size⟩

theorem place (bounded : Bounded n s) (c : Control) : Bounded n (s.place c) :=
  ⟨bounded.register, bounded.counts, bounded.size⟩

theorem register_fits (bounded : Bounded n s) : Word.subOverflows s.register 1 = false := by
  have low := bounded.register
  have word := s.register.toInt_lt
  rw [Word.subOverflows_eq_false_iff, Int64.toInt_one]
  omega

theorem cell_fits (bounded : Bounded n s) (inside : s.tape.Inside) (inTime : n + 1 < 2 ^ 63) :
    Word.subOverflows s.tape.current (s.register - 1) = false := by
  obtain ⟨low, high⟩ := bounded.counts.current inside
  have register := bounded.register
  have word := s.register.toInt_lt
  rw [Word.subOverflows_eq_false_iff, Word.toInt_sub_of_fits bounded.register_fits,
    Int64.toInt_one]
  omega

/-- A register of zero raises the cell by one, and a larger one lowers it. -/
theorem toInt_settled (bounded : Bounded n s) (inside : s.tape.Inside)
    (inTime : n + 1 < 2 ^ 63) :
    (max (s.tape.current - (s.register - 1)) 0).toInt =
      max (s.tape.current.toInt - s.register.toInt + 1) 0 := by
  rw [Word.toInt_max, Word.toInt_sub_of_fits (bounded.cell_fits inside inTime),
    Word.toInt_sub_of_fits bounded.register_fits, Int64.toInt_one, Int64.toInt_zero]
  congr 1
  omega

theorem perform (bounded : Bounded n s) (inside : s.tape.Inside) (inTime : n + 1 < 2 ^ 63)
    {op : Op} {next : State} (performed : Suffolk.perform op s = .ok next) :
    Bounded (n + 1) next := by
  obtain ⟨low, high⟩ := bounded.counts.current inside
  have size := bounded.size
  cases op with
  | right =>
      cases performed
      refine ⟨bounded.register, bounded.counts.right (by decide) (by decide), ?_⟩
      exact (Tape.size_cells_right_le 0).trans (Nat.succ_le_succ size)
  | collect =>
      rw [perform_collect_of_inside inside] at performed
      cases performed
      refine ⟨?_, bounded.counts.later, Nat.le_succ_of_le size⟩
      have register := bounded.register
      show 0 ≤ (Word.saturate _).toInt
      rw [Word.toInt_saturate]
      omega
  | settle =>
      rw [Suffolk.perform, Tape.update_of_inside s.tape inside] at performed
      cases performed
      have settled := bounded.toInt_settled inside inTime
      have register := bounded.register
      refine ⟨Int.le_refl _, bounded.counts.write (by omega) (by omega), ?_⟩
      simpa [Tape.rewind, Tape.write] using Nat.le_succ_of_le size
  | read =>
      rw [Suffolk.perform] at performed
      split at performed
      · rename_i c _
        cases performed
        refine ⟨?_, bounded.counts.later, Nat.le_succ_of_le size⟩
        have code := c.val.toNat_lt
        show 0 ≤ (Int64.ofNat c.val.toNat).toInt
        rw [Int64.toInt_ofNat_of_lt (by omega)]
        omega
      · cases performed
        exact ⟨Int.le_refl _, bounded.counts.later, Nat.le_succ_of_le size⟩
  | write =>
      rw [Suffolk.perform] at performed
      split at performed
      · cases performed
        exact ⟨bounded.register, bounded.counts.later, Nat.le_succ_of_le size⟩
      · cases performed
        exact bounded.later

theorem not_overflows (bounded : Bounded n s) (inside : s.tape.Inside)
    (inTime : n + 1 < 2 ^ 63) : s.overflows = false := by
  unfold State.overflows
  split
  · rw [bounded.register_fits, bounded.cell_fits inside inTime, Bool.or_false]
  · rw [bounded.register_fits, Bool.and_false]
  · rfl
  · rfl
  · rfl
  · rfl

end Bounded

theorem bounded_run (input : String) (program : Program) {n : Nat} (inTime : n < 2 ^ 63) :
    Bounded n (run input program n) := by
  induction n with
  | zero => exact ⟨Int.le_refl _, Tape.Counts.start, Nat.le_refl _⟩
  | succ n ih =>
      have bounded := ih (by omega)
      rcases run_succ_cases input program n with ⟨_, stepped⟩ | ⟨op, _, performed⟩
      · rw [stepped]
        exact bounded.later.place _
      · exact (bounded.place _).perform (sound_run input program n).inside inTime performed

/-! ### A register that is full

Cells are raised one by one, but sums of them grow with the product of two numbers of
steps. -/

/-- A state with a register and a tape of one cell. -/
def State.filled (s : State) (register cell : Nat) : State :=
  { s with register := Int64.ofNat register, tape := { cells := #[Int64.ofNat cell] } }

variable {s : State} {register cell : Nat}

theorem perform_settle_filled (word : cell + 1 < 2 ^ 63) :
    perform .settle (s.filled 0 cell) = .ok (s.filled 0 (cell + 1)) := by
  have before : (Int64.ofNat cell).toInt = cell := Int64.toInt_ofNat_of_lt (by omega)
  have after : (Int64.ofNat (cell + 1)).toInt = (cell + 1 : Nat) := Int64.toInt_ofNat_of_lt word
  have settled : max (Int64.ofNat cell - (0 - 1)) 0 = Int64.ofNat (cell + 1) := by
    have minus : ((0 : Int64) - 1).toInt = -1 := by decide
    have fits : Word.subOverflows (Int64.ofNat cell) (0 - 1) = false := by
      rw [Word.subOverflows_eq_false_iff, before, minus]
      omega
    rw [← Int64.toInt_inj, Word.toInt_max, Word.toInt_sub_of_fits fits, before, after, minus,
      Int64.toInt_zero]
    omega
  rw [State.filled, State.filled, ← settled]
  rfl

theorem perform_collect_filled (word : register + cell < 2 ^ 63) :
    perform .collect (s.filled register cell) = .ok (s.filled (register + cell) cell) := by
  have inside : (s.filled register cell).tape.Inside := Nat.zero_lt_one
  have left : (Int64.ofNat register).toInt = register := Int64.toInt_ofNat_of_lt (by omega)
  have right : (Int64.ofNat cell).toInt = cell := Int64.toInt_ofNat_of_lt (by omega)
  have total : (Int64.ofNat (register + cell)).toInt = (register + cell : Nat) :=
    Int64.toInt_ofNat_of_lt word
  have sum : Word.add (Int64.ofNat register) (Int64.ofNat cell) =
      Int64.ofNat (register + cell) := by
    rw [← Int64.toInt_inj, Word.add, Word.toInt_saturate, left, right, total]
    omega
  rw [perform_collect_of_inside inside, State.filled, State.filled, ← sum]
  rfl

theorem foldlM_settle (times : Nat) (word : cell + times < 2 ^ 63) :
    (List.replicate times Op.settle).foldlM (fun s op => perform op s) (s.filled 0 cell) =
      .ok (s.filled 0 (cell + times)) := by
  induction times generalizing cell with
  | zero => rfl
  | succ times ih =>
      rw [List.replicate_succ, List.foldlM_cons, perform_settle_filled (by omega)]
      show List.foldlM _ (s.filled 0 (cell + 1)) _ = _
      rw [ih (by omega)]
      congr 2
      omega

theorem foldlM_collect (s : State) (register cell times : Nat)
    (word : register + times * cell < 2 ^ 63) :
    (List.replicate times Op.collect).foldlM (fun s op => perform op s)
      (s.filled register cell) = .ok (s.filled (register + times * cell) cell) := by
  induction times generalizing register with
  | zero =>
      rw [Nat.zero_mul, Nat.add_zero]
      rfl
  | succ times ih =>
      rw [Nat.succ_mul] at word ⊢
      rw [List.replicate_succ, List.foldlM_cons, perform_collect_filled (by omega)]
      show List.foldlM _ (s.filled (register + cell) cell) _ = _
      rw [ih _ (by omega)]
      congr 2
      omega

/-- A program that raises its cell and then adds it up. -/
def heap (raises sums : Nat) : Program :=
  .text (String.ofList (List.replicate raises '!' ++ List.replicate sums '<'))

theorem readCode_heap (raises sums : Nat) :
    (readCode (heap raises sums).toText).toList =
      List.replicate raises Op.settle ++ List.replicate sums Op.collect := by
  have settle : Op.ofChar? '!' = some .settle := rfl
  have collect : Op.ofChar? '<' = some .collect := rfl
  simp [readCode, heap, Program.toText, settle, collect]

theorem run_heap (input : String) {raises sums times : Nat} (inside : times ≤ sums)
    (cell : raises < 2 ^ 63) (register : times * raises < 2 ^ 63) :
    (run input (heap raises sums) (raises + times)).place ⟨0, false⟩ =
      (run input (heap raises sums) 0).filled (times * raises) raises := by
  have code := readCode_heap raises sums
  have size : raises + times ≤ (readCode (heap raises sums).toText).size := by
    rw [← Array.length_toList, code]
    simpa using inside
  have walked := foldlM_take_of_le rfl
    (fun m _ => walks_run input (heap raises sums) m) size
  have taken : (readCode (heap raises sums).toText).toList.take (raises + times) =
      List.replicate raises Op.settle ++ List.replicate times Op.collect := by
    rw [code, List.take_append]
    simp [Nat.min_eq_left inside]
  have first : (run input (heap raises sums) 0).place ⟨0, false⟩ =
      (run input (heap raises sums) 0).filled 0 0 := rfl
  rw [taken, List.foldlM_append, first, foldlM_settle raises (by omega)] at walked
  have summed := foldlM_collect (run input (heap raises sums) 0) 0 raises times (by omega)
  rw [Nat.zero_add] at walked summed
  exact Except.ok.inj (walked.symm.trans summed)

/-- The sum that a step adds up to is more than the largest word, and the register stops
there. -/
def Saturates (input : String) (program : Program) (n : Nat) : Prop :=
  let s := run input program n
  s.code[s.index]? = some .collect ∧ Word.addOverflows s.register s.tape.current = true ∧
    (run input program (n + 1)).register = Int64.maxValue

theorem saturates_of_le_sum {input : String} {program : Program} {n : Nat}
    (found : (run input program n).code[(run input program n).index]? = some .collect)
    (full : 2 ^ 63 ≤ (run input program n).register.toInt +
      (run input program n).tape.current.toInt) :
    Saturates input program n := by
  have sum : (run input program (n + 1)).register =
      Word.add (run input program n).register (run input program n).tape.current := by
    rcases run_succ_cases input program n with ⟨past, _⟩ | ⟨op, read, performed⟩
    · cases found.symm.trans past
    · cases found.symm.trans read
      have inside := (sound_run input program n).inside
      have collected := performed.symm.trans (perform_collect_of_inside inside)
      exact congrArg State.register (Except.ok.inj collected)
  refine ⟨found, ?_, ?_⟩
  · rw [← Bool.not_eq_false, Word.addOverflows_eq_false_iff]
    omega
  · rw [sum, ← Int64.toInt_inj, Word.add, Word.toInt_saturate, Int64.toInt_maxValue]
    omega

theorem saturates_heap (input : String) {raises sums times : Nat} (inside : times < sums)
    (cell : raises < 2 ^ 63) (register : times * raises < 2 ^ 63)
    (full : 2 ^ 63 ≤ times * raises + raises) :
    Saturates input (heap raises sums) (raises + times) := by
  have code := readCode_heap raises sums
  have size : (readCode (heap raises sums).toText).size = raises + sums := by
    rw [← Array.length_toList, code]
    simp
  have index : (run input (heap raises sums) (raises + times)).index = raises + times := by
    have control := control_run input (heap raises sums) (raises + times)
    rw [size, Control.after_of_le (by omega)] at control
    exact congrArg Control.index control
  have filled := run_heap input (Nat.le_of_lt inside) cell register
  have before : (run input (heap raises sums) (raises + times)).register =
      Int64.ofNat (times * raises) := congrArg State.register filled
  have current : (run input (heap raises sums) (raises + times)).tape.current =
      Int64.ofNat raises := congrArg (fun s : State => s.tape.current) filled
  apply saturates_of_le_sum
  · rw [(sound_run input (heap raises sums) _).code_eq, index, ← Array.getElem?_toList, code,
      List.getElem?_append_right (by simp)]
    simp [inside]
  · rw [before, current, Int64.toInt_ofNat_of_lt register, Int64.toInt_ofNat_of_lt cell]
    omega

/-- For fewer than `2 ^ 63` steps the register is not negative, the cells of the tape are
between zero and the number of steps, the tape has one cell more than that at most, and no
difference before overflowed; yet the register can be full by then. -/
theorem differences_stay_in_words (input : String) (program : Program) (n : Nat)
    (inTime : n < 2 ^ 63) :
    let s := run input program n
    0 ≤ s.register.toInt ∧ (∀ cell ∈ s.tape.cells, 0 ≤ cell.toInt ∧ cell.toInt ≤ n) ∧
      s.tape.cells.size ≤ n + 1 ∧ (∀ m < n, (run input program m).overflows = false) ∧
      ∃ crowded m, m + 1 < 2 ^ 63 ∧ Saturates input crowded m := by
  intro s
  have bounded := bounded_run input program inTime
  refine ⟨bounded.register, bounded.counts, bounded.size, ?_, ?_⟩
  · intro m earlier
    exact (bounded_run input program (by omega)).not_overflows (sound_run input program m).inside
      (by omega)
  · refine ⟨heap (2 ^ 32) (2 ^ 31), 2 ^ 32 + (2 ^ 31 - 1), by decide, ?_⟩
    exact saturates_heap input (by decide) (by decide) (by decide) (by decide)

/-- A character read and settled leaves the cell at zero; with the register cleared, the
next settling raises it. -/
theorem differences_stay_in_words_past_read :
    let s := run "A" (.text ",!!.") 4
    s.tape.cells = #[1] ∧ 0 ≤ s.register.toInt ∧
      (∀ cell ∈ s.tape.cells, 0 ≤ cell.toInt ∧ cell.toInt ≤ 4) ∧ s.tape.cells.size ≤ 5 ∧
      ∀ m < 4, (run "A" (.text ",!!.") m).overflows = false := by
  obtain ⟨register, cells, size, fits, _⟩ :=
    differences_stay_in_words "A" (.text ",!!.") 4 (by decide)
  exact ⟨by decide +kernel, register, cells, size, fits⟩

end Suffolk

end StepLab
