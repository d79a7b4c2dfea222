import Mathlib.Data.Nat.Count
import StepLab.Proofs.Language.Laps

/-! # What Suffolk reads

The reads of a run are counted over all laps through the code.  The read that has `k` reads
before it takes the character at place `k` of the input, or zero past its end, and a state
has used up as many characters as there were reads, up to all of them.  So a run knows no
more of its input than it has read: inputs that begin alike are told apart by nothing until
the reads go beyond what they share. -/

set_option autoImplicit false

namespace StepLab.Suffolk

/-- The next instruction reads a character. -/
def State.AtRead (s : State) : Prop := s.code[s.index]? = some .read

instance (s : State) : Decidable s.AtRead :=
  inferInstanceAs (Decidable (s.code[s.index]? = some .read))

/-- How many reads the first steps of a run execute. -/
def reads (input : String) (program : Program) (n : Nat) : Nat :=
  Nat.count (fun i => (run input program i).AtRead) n

theorem reads_succ (input : String) (program : Program) (n : Nat) :
    reads input program (n + 1) =
      reads input program n + if (run input program n).AtRead then 1 else 0 :=
  Nat.count_succ _ _

/-! ## One instruction -/

variable {op : Op} {s next : State}

theorem perform_of_not_read (other : op ≠ .read) (performed : perform op s = .ok next) :
    next.input = s.input ∧ next.consumed = s.consumed := by
  cases op with
  | right =>
      cases performed
      exact ⟨rfl, rfl⟩
  | collect =>
      rw [perform] at performed
      cases found : s.tape.read with
      | error fault =>
          rw [found] at performed
          cases performed
      | ok cell =>
          rw [found] at performed
          cases performed
          exact ⟨rfl, rfl⟩
  | settle =>
      rw [perform] at performed
      cases found : s.tape.update fun cell => max (cell - (s.register - 1)) 0 with
      | error fault =>
          rw [found] at performed
          cases performed
      | ok tape =>
          rw [found] at performed
          cases performed
          exact ⟨rfl, rfl⟩
  | read => contradiction
  | write =>
      rw [perform] at performed
      split at performed
      · cases performed
        exact ⟨rfl, rfl⟩
      · cases performed
        exact ⟨rfl, rfl⟩

theorem perform_read_of_some {c : Char} (found : s.input[s.consumed]? = some c) :
    perform .read s =
      .ok { s with register := Int64.ofNat c.toNat, consumed := s.consumed + 1 } := by
  rw [perform, found]

theorem perform_read_of_none (past : s.input[s.consumed]? = none) :
    perform .read s = .ok { s with register := 0 } := by
  rw [perform, past]

/-! ## A run -/

section Run

variable (input : String) (program : Program) (n : Nat)

theorem read_or_kept :
    let s := run input program n
    s.AtRead ∧
        perform .read (s.place ⟨s.index + 1, false⟩) = .ok (run input program (n + 1)) ∨
      ¬ s.AtRead ∧ (run input program (n + 1)).input = s.input ∧
        (run input program (n + 1)).consumed = s.consumed := by
  intro s
  rcases run_succ_cases input program n with ⟨past, stepped⟩ | ⟨op, found, performed⟩
  · rw [stepped]
    refine Or.inr ⟨?_, rfl, rfl⟩
    intro atRead
    cases past.symm.trans atRead
  · by_cases read : op = .read
    · subst read
      exact Or.inl ⟨found, performed⟩
    · have kept := perform_of_not_read read performed
      refine Or.inr ⟨?_, kept⟩
      intro atRead
      exact read (Option.some.inj (found.symm.trans atRead))

/-- The next read finds what is in the input at the place of its number. -/
theorem getElem?_consumed (whole : (run input program n).input = input.toList.toArray)
    (counted : (run input program n).consumed = min (reads input program n) input.length) :
    (run input program n).input[(run input program n).consumed]? =
      input.toList[reads input program n]? := by
  rw [whole, counted, List.getElem?_toArray, ← String.length_toList]
  rcases Nat.lt_or_ge (reads input program n) input.toList.length with left | used
  · rw [Nat.min_eq_left (Nat.le_of_lt left)]
  · rw [Nat.min_eq_right used, List.getElem?_eq_none used,
      List.getElem?_eq_none (Nat.le_refl _)]

theorem consumed_run : (run input program n).input = input.toList.toArray ∧
    (run input program n).consumed = min (reads input program n) input.length := by
  induction n with
  | zero => exact ⟨rfl, (Nat.zero_min _).symm⟩
  | succ n ih =>
      obtain ⟨whole, counted⟩ := ih
      have place := getElem?_consumed input program n whole counted
      rw [reads_succ]
      rcases read_or_kept input program n with ⟨atRead, read⟩ | ⟨other, kept, same⟩
      · rw [if_pos atRead]
        cases found : (run input program n).input[(run input program n).consumed]? with
        | some c =>
            have next := Except.ok.inj (read.symm.trans (perform_read_of_some found))
            rw [found] at place
            have left := (List.getElem?_eq_some_iff.mp place.symm).1
            rw [String.length_toList] at left
            rw [next]
            refine ⟨whole, ?_⟩
            show (run input program n).consumed + 1 = _
            omega
        | none =>
            have next := Except.ok.inj (read.symm.trans (perform_read_of_none found))
            rw [found] at place
            have used := List.getElem?_eq_none_iff.mp place.symm
            rw [String.length_toList] at used
            rw [next]
            refine ⟨whole, ?_⟩
            show (run input program n).consumed = _
            omega
      · rw [if_neg other, Nat.add_zero, kept, same]
        exact ⟨whole, counted⟩

theorem register_run_of_atRead (atRead : (run input program n).AtRead) :
    (∀ c, input.toList[reads input program n]? = some c →
        (run input program (n + 1)).register.toInt = c.toNat) ∧
      (input.length ≤ reads input program n → (run input program (n + 1)).register = 0) := by
  obtain ⟨whole, counted⟩ := consumed_run input program n
  have place := getElem?_consumed input program n whole counted
  rcases read_or_kept input program n with ⟨_, read⟩ | ⟨other, _⟩
  · constructor
    · intro c found
      have next := Except.ok.inj (read.symm.trans (perform_read_of_some (place.trans found)))
      have code : c.toNat < 2 ^ 32 := c.val.toNat_lt
      rw [next]
      exact Int64.toInt_ofNat_of_lt (by omega)
    · intro used
      rw [← String.length_toList] at used
      have past := place.trans (List.getElem?_eq_none used)
      have next := Except.ok.inj (read.symm.trans (perform_read_of_none past))
      rw [next]
  · contradiction

end Run

/-! ## Two inputs -/

/-- The same state with another input. -/
def State.feed (s : State) (input : Array Char) : State := { s with input }

theorem perform_feed (op : Op) (s : State) (other : Array Char)
    (same : op = .read → other[s.consumed]? = s.input[s.consumed]?) :
    perform op (s.feed other) = (perform op s).map (State.feed · other) := by
  have tape : (s.feed other).tape = s.tape := rfl
  have register : (s.feed other).register = s.register := rfl
  cases op with
  | right => rfl
  | collect =>
      simp only [perform, tape]
      cases s.tape.read <;> rfl
  | settle =>
      simp only [perform, tape, register]
      cases s.tape.update fun cell => max (cell - (s.register - 1)) 0 <;> rfl
  | read =>
      have next : (s.feed other).input[(s.feed other).consumed]? = s.input[s.consumed]? :=
        same rfl
      simp only [perform, next]
      cases s.input[s.consumed]? <;> rfl
  | write =>
      simp only [perform, register]
      split <;> rfl

theorem execute_feed (s : State) (other : Array Char)
    (same : s.AtRead → other[s.consumed]? = s.input[s.consumed]?) :
    execute (s.feed other) = (execute s).map (State.feed · other) := by
  have code : (s.feed other).code[(s.feed other).index]? = s.code[s.index]? := rfl
  rw [execute, execute, code]
  cases found : s.code[s.index]? with
  | none => rfl
  | some op =>
      apply perform_feed op { s with index := s.index + 1, ended := false }
      rintro rfl
      exact same found

theorem getElem?_of_take_eq {α : Type} {k i : Nat} {xs ys : List α} (same : xs.take k = ys.take k)
    (inside : i < k) : xs[i]? = ys[i]? := by
  rw [← List.getElem?_take_of_lt inside, same, List.getElem?_take_of_lt inside]

/-- As long as no more is read than two inputs share, their runs are the same. -/
theorem run_feed (program : Program) {input other : String} {k : Nat}
    (same : input.toList.take k = other.toList.take k) (enough : k ≤ input.length)
    {n : Nat} (few : reads input program n ≤ k) :
    run other program n = (run input program n).feed other.toList.toArray := by
  induction n with
  | zero => rfl
  | succ n ih =>
      rw [reads_succ] at few
      have shared : (run input program n).AtRead →
          other.toList.toArray[(run input program n).consumed]? =
            (run input program n).input[(run input program n).consumed]? := by
        intro atRead
        rw [if_pos atRead] at few
        obtain ⟨whole, counted⟩ := consumed_run input program n
        -- This read is one of the `k`, so the characters used up are fewer.
        have place : (run input program n).consumed < k := by omega
        rw [whole, List.getElem?_toArray, List.getElem?_toArray, getElem?_of_take_eq same place]
      obtain ⟨next, executed, _⟩ := execute_sound program _ (sound_run input program n)
      have fed := execute_feed (run input program n) other.toList.toArray shared
      rw [executed] at fed
      rw [run_succ, run_succ, ih (by omega), (suffolk input).step_eq_of_execute executed]
      exact (suffolk other).step_eq_of_execute fed

/-- The input is read in order, over all laps: a read that has `k` reads before it takes
character `k`, or zero past the end, and as many characters are used up as there were
reads.  Inputs with the same first characters lead through the same states as long as no
more than those are read. -/
theorem input_read_in_order (input : String) (program : Program) :
    (∀ n, (run input program n).consumed = min (reads input program n) input.length) ∧
    (∀ n, (run input program n).AtRead →
      (∀ c, input.toList[reads input program n]? = some c →
        (run input program (n + 1)).register.toInt = c.toNat) ∧
      (input.length ≤ reads input program n → (run input program (n + 1)).register = 0)) ∧
    ∀ (other : String) (k : Nat), input.toList.take k = other.toList.take k →
      k ≤ input.length → k ≤ other.length → ∀ n, reads input program n ≤ k →
        run other program n = { run input program n with input := other.toList.toArray } := by
  refine ⟨?_, ?_, ?_⟩
  · intro n
    exact (consumed_run input program n).2
  · intro n atRead
    exact register_run_of_atRead input program n atRead
  · intro other k same enough _ n few
    exact run_feed program same enough few

/-- Two laps with two reads in each: the fourth read is past the end of the input, and
inputs that differ in their third character agree until the third read. -/
theorem input_read_in_order_over_laps :
    let program := Program.text ",,"
    reads "AB!" program 3 = 2 ∧ (run "AB!" program 3).AtRead ∧
      (run "AB!" program 4).register = 33 ∧ (run "AB!" program 5).register = 0 ∧
      (run "AB!" program 5).consumed = 3 ∧
      run "ABC" program 3 = { run "AB!" program 3 with input := #['A', 'B', 'C'] } := by
  intro program
  have two : reads "AB!" program 3 = 2 := by decide +kernel
  have three : reads "AB!" program 4 = 3 := by decide +kernel
  have four : reads "AB!" program 5 = 4 := by decide +kernel
  have third : (run "AB!" program 3).AtRead := by decide +kernel
  have fourth : (run "AB!" program 4).AtRead := by decide +kernel
  obtain ⟨consumed, taken, agree⟩ := input_read_in_order "AB!" program
  have register := (taken 3 third).1 '!' (by rw [two]; rfl)
  refine ⟨two, third, ?_, ?_, ?_, ?_⟩
  · exact Int64.toInt_inj.mp register
  · exact (taken 4 fourth).2 (by rw [three]; decide)
  · rw [consumed, four]
    rfl
  · exact agree "ABC" 2 rfl (by decide) (by decide) 3 (by rw [two])

end StepLab.Suffolk
