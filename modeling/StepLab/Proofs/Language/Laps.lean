import StepLab.Proofs.Engine.Stopping
import StepLab.Proofs.Language.TapeMachines

/-! # Laps through the code

The machines on a tape alone go through their code from the first instruction to the last,
take one step more to mark the end, and start over: a lap through code of `size`
instructions takes `size + 1` steps.  Where such a machine stands after `n` steps depends
on nothing but `n` and the size.  Suffolk runs in laps for ever.  Stun Step does so until
it ends a lap on a zero cell, where it stays.

The run without a ticker stops at the end of the first lap, so it executes each
instruction at most once and in order. -/

set_option autoImplicit false

namespace StepLab

/-- Where a machine stands in its code, and whether it has just passed its end. -/
structure Control where
  index : Nat
  ended : Bool

namespace Control

/-- On to the next instruction; past the last one the end is marked, at the first one. -/
def next (size : Nat) (c : Control) : Control :=
  if c.index < size then ⟨c.index + 1, false⟩ else ⟨0, true⟩

theorem next_of_some {Op : Type} {code : Array Op} {c : Control} {op : Op}
    (found : code[c.index]? = some op) : c.next code.size = ⟨c.index + 1, false⟩ :=
  if_pos (Array.getElem?_eq_some_iff.mp found).1

theorem next_of_none {Op : Type} {code : Array Op} {c : Control}
    (past : code[c.index]? = none) : c.next code.size = ⟨0, true⟩ :=
  if_neg (Nat.not_lt.mpr (Array.getElem?_eq_none_iff.mp past))

/-- The control after some steps from the first instruction. -/
def after (size n : Nat) : Control := ⟨n % (size + 1), decide (0 < n ∧ size + 1 ∣ n)⟩

theorem after_of_le {size n : Nat} (inside : n ≤ size) : after size n = ⟨n, false⟩ := by
  have small : n % (size + 1) = n := Nat.mod_eq_of_lt (by omega)
  have going : ¬ (0 < n ∧ size + 1 ∣ n) := by
    rintro ⟨positive, divides⟩
    have := Nat.le_of_dvd positive divides
    omega
  rw [after, small, decide_eq_false going]

theorem after_lap (size : Nat) : after size (size + 1) = ⟨0, true⟩ := by
  simp [after]

theorem eq_after_iff {size n : Nat} {c : Control} :
    c = after size n ↔
      c.index = n % (size + 1) ∧ (c.ended = true ↔ 0 < n ∧ size + 1 ∣ n) := by
  obtain ⟨index, ended⟩ := c
  simp only [after, mk.injEq]
  refine and_congr_right fun _ => ?_
  cases ended <;> simp

theorem next_after (size n : Nat) : (after size n).next size = after size (n + 1) := by
  have bound : n % (size + 1) < size + 1 := Nat.mod_lt n (Nat.succ_pos size)
  have whole := Nat.div_add_mod n (size + 1)
  by_cases inside : n % (size + 1) < size
  · have sum : n + 1 = (size + 1) * (n / (size + 1)) + (n % (size + 1) + 1) := by omega
    have remainder : (n + 1) % (size + 1) = n % (size + 1) + 1 := by
      rw [sum, Nat.mul_add_mod, Nat.mod_eq_of_lt (by omega)]
    have going : ¬ size + 1 ∣ n + 1 := by
      rw [Nat.dvd_iff_mod_eq_zero]
      omega
    simp [next, after, inside, remainder, going]
  · have sum : n + 1 = (size + 1) * (n / (size + 1)) + (size + 1) := by omega
    have divides : size + 1 ∣ n + 1 := by
      rw [sum]
      exact Nat.dvd_add (Nat.dvd_mul_right _ _) (Nat.dvd_refl _)
    simp [next, after, inside, divides, Nat.mod_eq_zero_of_dvd divides]

end Control

/-! ## The run without a ticker -/

namespace Language

variable {L : Language} {program : Program} {size : Nat}

/-- From its first state on, a program makes a lap through code of a size. -/
def MakesLap (L : Language) (program : Program) (size : Nat) : Prop :=
  ∀ n ≤ size + 1,
    (L.view (L.step^[n] (L.seed program))).cursor = some (Control.after size n).index ∧
      L.ended (L.step^[n] (L.seed program)) = (Control.after size n).ended

namespace MakesLap

theorem within (lap : L.MakesLap program size) {n : Nat} (inside : n ≤ size) :
    (L.view (L.step^[n] (L.seed program))).cursor = some n ∧
      L.ended (L.step^[n] (L.seed program)) = false := by
  have here := lap n (by omega)
  rwa [Control.after_of_le inside] at here

theorem ended (lap : L.MakesLap program size) :
    L.ended (L.step^[size + 1] (L.seed program)) = true := by
  rw [(lap _ (Nat.le_refl _)).2, Control.after_lap]

theorem not_rests (lap : L.MakesLap program size) {n : Nat} (inside : n ≤ size) :
    ¬ L.Rests (L.step^[n] (L.seed program)) := by
  obtain ⟨here, going⟩ := lap.within inside
  rintro (ended | still)
  · rw [going] at ended
    contradiction
  · -- The step goes on in the code or marks the end, so it moves.
    rw [← Function.iterate_succ_apply' L.step] at still
    rcases Nat.lt_or_eq_of_le inside with less | rfl
    · have next := (lap.within less).1
      rw [still, here] at next
      simp at next
    · have ended := lap.ended
      rw [still, going] at ended
      contradiction

theorem eq_min_of_isLeast (lap : L.MakesLap program size) (limit : Nat) {k : Nat}
    (least : IsLeast {k | 0 ≤ k ∧ (L.Rests (L.step^[k] (L.seed program)) ∨ limit ≤ k)} k) :
    k = min limit (size + 1) := by
  obtain ⟨⟨_, stops⟩, first⟩ := least
  have limited : k ≤ limit := first ⟨Nat.zero_le _, Or.inr (Nat.le_refl _)⟩
  have lapped : k ≤ size + 1 := first ⟨Nat.zero_le _, Or.inl (Or.inl lap.ended)⟩
  rcases stops with rests | reached
  · have later : ¬ k ≤ size := fun inside => lap.not_rests inside rests
    omega
  · omega

end MakesLap

end Language

namespace History

variable {L : Language}

theorem Follows.iterate_proceed {h : History L} {first : L.State} (follows : h.Follows first)
    (n : Nat) : (proceed^[n] h).Follows first := by
  induction n generalizing h with
  | zero => exact follows
  | succ n ih =>
      rw [Function.iterate_succ_apply]
      apply ih
      unfold proceed
      split
      · exact follows
      · exact follows.next

end History

namespace Engine

variable {L : Language}

/-- A run that has gone through code of a size at most once: it stands at its limit or at
the end of the lap, has ended in the second case, and took its step `i` from place `i`. -/
structure OnePass (size limit : Nat) (last : Engine L) : Prop where
  step : last.history.cursor = min limit (size + 1)
  ended : last.terminated = true ↔ size + 1 ≤ limit
  inOrder : ∀ i < last.history.cursor, ∃ s, last.history.get? i = some s ∧
    (L.view s).cursor = some i ∧ L.ended s = false

theorem history_runToEnd_create (program : Program) (pace : Pace) (limit : Nat) :
    ((create L program pace).value.runToEnd limit).value.history =
      History.proceed^[limit] (History.start (L.seed program)) := by
  rw [value_runToEnd]
  rfl

theorem cursor_runToEnd_create {program : Program} {size : Nat} (lap : L.MakesLap program size)
    (pace : Pace) (limit : Nat) :
    ((create L program pace).value.runToEnd limit).value.history.cursor =
      min limit (size + 1) := by
  rw [history_runToEnd_create]
  apply lap.eq_min_of_isLeast
  exact (History.follows_start _).isLeast_cursor_iterate_proceed limit limit rfl

theorem state_runToEnd_create {program : Program} {size : Nat} (lap : L.MakesLap program size)
    (pace : Pace) (limit : Nat) :
    ((create L program pace).value.runToEnd limit).value.state =
      L.step^[min limit (size + 1)] (L.seed program) := by
  have follows := (History.follows_start (L.seed program)).iterate_proceed limit
  rw [← cursor_runToEnd_create lap pace, state, history_runToEnd_create]
  exact follows.current_eq

theorem onePass_runToEnd_create {program : Program} {size : Nat}
    (lap : L.MakesLap program size) (pace : Pace) (limit : Nat) :
    (((create L program pace).value.runToEnd limit).value).OnePass size limit := by
  have cursor := cursor_runToEnd_create lap pace limit
  refine ⟨cursor, ?_, ?_⟩
  · rw [terminated, state_runToEnd_create lap]
    rcases Nat.lt_or_ge limit (size + 1) with short | long
    · rw [Nat.min_eq_left (by omega), (lap.within (by omega)).2]
      exact iff_of_false Bool.false_ne_true (by omega)
    · rw [Nat.min_eq_right long, lap.ended]
      exact iff_of_true rfl long
  · intro i earlier
    have follows := (History.follows_start (L.seed program)).iterate_proceed limit
    rw [← history_runToEnd_create program pace] at follows
    have entry := follows.entry i (earlier.trans (History.cursor_lt _))
    obtain ⟨here, going⟩ := lap.within (show i ≤ size by omega)
    exact ⟨_, entry, here, going⟩

end Engine

/-! ## Machines that go through code -/

section Walk

variable {Op Memory : Type}

/-- Step `n` of a run goes on in the code, and the instruction it is taken from, if there
is one, acts on the memory. -/
structure Walks (code : Array Op) (act : Memory → Op → Except Fault Memory)
    (control : Nat → Control) (memory : Nat → Memory) (n : Nat) : Prop where
  goesOn : control (n + 1) = (control n).next code.size
  acted : ∀ op, code[(control n).index]? = some op → act (memory n) op = .ok (memory (n + 1))
  passed : code[(control n).index]? = none → memory (n + 1) = memory n

variable {code : Array Op} {act : Memory → Op → Except Fault Memory}
  {control : Nat → Control} {memory : Nat → Memory}

namespace Walks

theorem of_some {n : Nat} {op : Op} (found : code[(control n).index]? = some op)
    (moved : control (n + 1) = ⟨(control n).index + 1, false⟩)
    (acted : act (memory n) op = .ok (memory (n + 1))) : Walks code act control memory n := by
  refine ⟨?_, ?_, ?_⟩
  · rw [moved, Control.next_of_some found]
  · intro op' here
    cases found.symm.trans here
    exact acted
  · intro past
    cases found.symm.trans past

theorem of_none {n : Nat} (past : code[(control n).index]? = none)
    (moved : control (n + 1) = ⟨0, true⟩) (kept : memory (n + 1) = memory n) :
    Walks code act control memory n := by
  refine ⟨?_, ?_, ?_⟩
  · rw [moved, Control.next_of_none past]
  · intro op found
    cases found.symm.trans past
  · intro _
    exact kept

end Walks

theorem control_eq_after (start : control 0 = ⟨0, false⟩) {n : Nat}
    (walks : ∀ m < n, Walks code act control memory m) :
    control n = Control.after code.size n := by
  induction n with
  | zero => rw [start, Control.after_of_le (Nat.zero_le _)]
  | succ n ih =>
      have here := ih fun m earlier => walks m (Nat.lt_succ_of_lt earlier)
      rw [(walks n (Nat.lt_succ_self n)).goesOn, here, Control.next_after]

theorem index_of_walks (start : control 0 = ⟨0, false⟩)
    (walks : ∀ m ≤ code.size, Walks code act control memory m) {n : Nat}
    (inside : n ≤ code.size) : (control n).index = n := by
  have earlier : ∀ m < n, Walks code act control memory m := fun m less => walks m (by omega)
  rw [control_eq_after start earlier, Control.after_of_le inside]

/-- Along the first lap the memory is what the instructions make of it, in order. -/
theorem foldlM_take_of_le (start : control 0 = ⟨0, false⟩)
    (walks : ∀ m ≤ code.size, Walks code act control memory m) {n : Nat}
    (inside : n ≤ code.size) :
    (code.toList.take n).foldlM act (memory 0) = .ok (memory n) := by
  induction n with
  | zero => rfl
  | succ n ih =>
      have found : code[(control n).index]? = some code[n] := by
        rw [index_of_walks start walks (by omega)]
        exact Array.getElem?_eq_getElem inside
      have acted := (walks n (by omega)).acted _ found
      have listed : n < code.toList.length := by
        rw [Array.length_toList]
        exact inside
      rw [List.take_succ_eq_append_getElem listed, List.foldlM_append, ih (by omega),
        Array.getElem_toList]
      simp only [List.foldlM_cons, List.foldlM_nil, bind_pure]
      exact acted

theorem foldlM_take_of_walks (start : control 0 = ⟨0, false⟩)
    (walks : ∀ m ≤ code.size, Walks code act control memory m) (limit : Nat) :
    (code.toList.take limit).foldlM act (memory 0) =
      .ok (memory (min limit (code.size + 1))) := by
  rcases Nat.lt_or_ge limit (code.size + 1) with short | long
  · rw [Nat.min_eq_left (by omega)]
    exact foldlM_take_of_le start walks (by omega)
  · -- The step past the code leaves the memory as the last instruction made it.
    have past : code[(control code.size).index]? = none := by
      rw [index_of_walks start walks (Nat.le_refl _)]
      exact Array.getElem?_eq_none (Nat.le_refl _)
    have whole : code.toList.take limit = code.toList.take code.size := by
      rw [List.take_of_length_le (by simp; omega), List.take_of_length_le (by simp)]
    rw [Nat.min_eq_right long, (walks _ (Nat.le_refl _)).passed past, whole]
    exact foldlM_take_of_le start walks (Nat.le_refl _)

end Walk

namespace Suffolk

/-! ## Suffolk -/

/-- The state after some steps from the seed. -/
def run (input : String) (program : Program) (n : Nat) : State :=
  (suffolk input).step^[n] ((suffolk input).seed program)

def State.control (s : State) : Control := ⟨s.index, s.ended⟩

/-- The same memory at another place of the code. -/
def State.place (c : Control) (s : State) : State := { s with index := c.index, ended := c.ended }

theorem perform_place (op : Op) (c : Control) (s : State) :
    perform op (s.place c) = (perform op s).map (State.place c) := by
  have tape : (s.place c).tape = s.tape := rfl
  have register : (s.place c).register = s.register := rfl
  have next : (s.place c).input[(s.place c).consumed]? = s.input[s.consumed]? := rfl
  cases op with
  | right => rfl
  | collect =>
      simp only [perform, tape]
      cases s.tape.read <;> rfl
  | settle =>
      simp only [perform, tape, register]
      cases s.tape.update fun cell => max (cell - (s.register - 1)) 0 <;> rfl
  | read =>
      simp only [perform, next]
      cases s.input[s.consumed]? <;> rfl
  | write =>
      simp only [perform, register]
      split <;> rfl

section Run

variable (input : String) (program : Program)

theorem sound_run (n : Nat) : Sound program (run input program n) :=
  (invariant input).iterate program n

theorem run_succ (n : Nat) :
    run input program (n + 1) = (suffolk input).step (run input program n) :=
  Function.iterate_succ_apply' _ _ _

/-- A step performs the instruction where the machine stands, or marks the end. -/
theorem run_succ_cases (n : Nat) :
    let s := run input program n
    s.code[s.index]? = none ∧ run input program (n + 1) = s.place ⟨0, true⟩ ∨
      ∃ op, s.code[s.index]? = some op ∧
        perform op (s.place ⟨s.index + 1, false⟩) = .ok (run input program (n + 1)) := by
  intro s
  obtain ⟨next, executed, _⟩ := execute_sound program s (sound_run input program n)
  have stepped : run input program (n + 1) = next := by
    rw [run_succ]
    exact (suffolk input).step_eq_of_execute executed
  rw [stepped]
  unfold execute at executed
  split at executed
  · rename_i past
    cases executed
    exact Or.inl ⟨past, rfl⟩
  · rename_i op found
    exact Or.inr ⟨op, found, executed⟩

/-- Every step goes on in the code, whatever the memory. -/
theorem walks_run (n : Nat) :
    Walks (readCode program.toText) (fun s op => perform op s)
      (fun n => (run input program n).control)
      (fun n => (run input program n).place ⟨0, false⟩) n := by
  have sound := sound_run input program n
  rw [← sound.code_eq]
  cases found : (run input program n).code[(run input program n).index]? with
  | none =>
      have executed : execute (run input program n) =
          .ok ((run input program n).place ⟨0, true⟩) := by
        rw [execute, found]
        rfl
      have stepped : run input program (n + 1) = (run input program n).place ⟨0, true⟩ := by
        rw [run_succ]
        exact (suffolk input).step_eq_of_execute executed
      apply Walks.of_none found
      · rw [stepped]
        rfl
      · rw [stepped]
        rfl
  | some op =>
      obtain ⟨memory, performed, _⟩ := perform_sound program op _ sound
      have executed : execute (run input program n) =
          .ok (memory.place ⟨(run input program n).index + 1, false⟩) := by
        rw [execute, found]
        show perform op ((run input program n).place ⟨_ + 1, false⟩) = _
        rw [perform_place, performed]
        rfl
      have stepped : run input program (n + 1) =
          memory.place ⟨(run input program n).index + 1, false⟩ := by
        rw [run_succ]
        exact (suffolk input).step_eq_of_execute executed
      apply Walks.of_some found
      · rw [stepped]
        rfl
      · rw [perform_place, performed, stepped]
        rfl

theorem control_run (n : Nat) :
    (run input program n).control = Control.after (readCode program.toText).size n :=
  control_eq_after rfl fun m _ => walks_run input program m

theorem length_normalize (source : String) :
    ((suffolk input).normalize source).length = (readCode source).size := by
  show (String.ofList (writeCode (readCode source))).length = _
  rw [String.length_ofList, length_writeCode]

theorem makesLap : (suffolk input).MakesLap program (readCode program.toText).size := by
  intro n _
  have control := control_run input program n
  have index : (run input program n).index = _ := congrArg Control.index control
  exact ⟨congrArg some index, congrArg Control.ended control⟩

end Run

end Suffolk

namespace StunStep

/-! ## Stun Step -/

/-- The state after some steps from the seed. -/
def run (program : Program) (n : Nat) : State := stunStep.step^[n] (stunStep.seed program)

def State.control (s : State) : Control := ⟨s.index, s.ended⟩

def Resting (s : State) : Prop := s.ended = true ∧ s.tape.current = 0

theorem step_of_resting {s : State} (resting : Resting s) : stunStep.step s = s := by
  have still : execute s = .ok s := by
    rw [execute, if_pos]
    simp [resting.1, resting.2]
  exact stunStep.step_eq_of_execute still

section Run

variable {program : Program}

theorem sound_run (n : Nat) : Sound program (run program n) :=
  invariant.iterate program n

theorem run_succ (n : Nat) : run program (n + 1) = stunStep.step (run program n) :=
  Function.iterate_succ_apply' _ _ _

/-- A step that is not stuck goes on in the code. -/
theorem walks_run {n : Nat} (going : ¬ Resting (run program n)) :
    Walks (readCode program.toText) (fun tape op => perform op tape)
      (fun n => (run program n).control) (fun n => (run program n).tape) n := by
  have sound : Sound program (run program n) := sound_run n
  have awake : ¬ ((run program n).ended && (run program n).tape.current = 0) := by
    simpa [Resting] using going
  rw [← sound.code_eq]
  cases found : (run program n).code[(run program n).index]? with
  | none =>
      have executed : execute (run program n) =
          .ok { run program n with index := 0, ended := true } := by
        rw [execute, if_neg awake, found]
      have stepped : run program (n + 1) = { run program n with index := 0, ended := true } := by
        rw [run_succ]
        exact stunStep.step_eq_of_execute executed
      apply Walks.of_none found
      · rw [stepped]
        rfl
      · rw [stepped]
  | some op =>
      obtain ⟨tape, performed, _⟩ := perform_inside op _ sound.inside
      have executed : execute (run program n) =
          .ok { run program n with index := (run program n).index + 1, ended := false, tape } := by
        rw [execute, if_neg awake, found]
        simp only [performed]
        rfl
      have stepped : run program (n + 1) =
          { run program n with index := (run program n).index + 1, ended := false, tape } := by
        rw [run_succ]
        exact stunStep.step_eq_of_execute executed
      apply Walks.of_some found
      · rw [stepped]
        rfl
      · rw [stepped]
        exact performed

/-- The ends of laps at which the current cell is zero. -/
def deadEnds (program : Program) : Set Nat :=
  {t | 0 < t ∧ (readCode program.toText).size + 1 ∣ t ∧ (run program t).tape.current = 0}

theorem walks_run_of_alive {n : Nat} (alive : n ∉ deadEnds program)
    (control : (run program n).control = Control.after (readCode program.toText).size n) :
    Walks (readCode program.toText) (fun tape op => perform op tape)
      (fun n => (run program n).control) (fun n => (run program n).tape) n := by
  apply walks_run
  rintro ⟨ended, zero⟩
  have marked : (Control.after (readCode program.toText).size n).ended = true := by
    rw [← control]
    exact ended
  obtain ⟨positive, divides⟩ := of_decide_eq_true marked
  exact alive ⟨positive, divides, zero⟩

theorem length_normalize (source : String) :
    (stunStep.normalize source).length = (readCode source).size := by
  show (String.ofList (writeCode (readCode source))).length = _
  rw [String.length_ofList, length_writeCode]

/-- Up to the first dead end the run goes in laps. -/
theorem control_run {n : Nat} (alive : ∀ t ∈ deadEnds program, n ≤ t) :
    (run program n).control = Control.after (readCode program.toText).size n := by
  induction n with
  | zero => exact (Control.after_of_le (Nat.zero_le _)).symm
  | succ n ih =>
      have here := ih fun t stop => Nat.le_of_lt (alive t stop)
      have now : n ∉ deadEnds program := fun stop => Nat.not_succ_le_self n (alive n stop)
      have goesOn := (walks_run_of_alive now here).goesOn
      rw [here, Control.next_after] at goesOn
      exact goesOn

/-- At the first dead end the run stays. -/
theorem run_eq_of_isLeast_deadEnds {stop n : Nat} (least : IsLeast (deadEnds program) stop)
    (later : stop ≤ n) : run program n = run program stop := by
  have control := control_run fun t dead => least.2 dead
  obtain ⟨positive, divides, zero⟩ := least.1
  have ended : (run program stop).ended = true := by
    have marked := congrArg Control.ended control
    exact marked.trans (decide_eq_true ⟨positive, divides⟩)
  induction n, later using Nat.le_induction with
  | base => rfl
  | succ n later ih =>
      rw [run_succ, ih]
      exact step_of_resting ⟨ended, zero⟩

theorem lap_le_of_mem_deadEnds {t : Nat} (stop : t ∈ deadEnds program) :
    (readCode program.toText).size + 1 ≤ t :=
  Nat.le_of_dvd stop.1 stop.2.1

theorem control_run_of_le {n : Nat} (inside : n ≤ (readCode program.toText).size + 1) :
    (run program n).control = Control.after (readCode program.toText).size n :=
  control_run fun _ stop => inside.trans (lap_le_of_mem_deadEnds stop)

theorem walks_run_of_le {n : Nat} (inside : n ≤ (readCode program.toText).size) :
    Walks (readCode program.toText) (fun tape op => perform op tape)
      (fun n => (run program n).control) (fun n => (run program n).tape) n := by
  refine walks_run_of_alive ?_ (control_run_of_le (Nat.le_succ_of_le inside))
  intro stop
  have later := lap_le_of_mem_deadEnds stop
  omega

theorem makesLap (program : Program) :
    stunStep.MakesLap program (readCode program.toText).size := by
  intro n inside
  have control := control_run_of_le inside
  have index : (run program n).index = _ := congrArg Control.index control
  exact ⟨congrArg some index, congrArg Control.ended control⟩

end Run

end StunStep

/-- Where a run of a text stands after `n` steps is a matter of `n` and the number of its
instructions alone: for Suffolk at any time, for Stun Step up to the first end of a lap on
a zero cell, where it stays.  So the run without a ticker makes one pass at most, and what
it leaves in the memory is the work of the instructions in their order. -/
theorem text_runs_go_in_laps (program : Program) (input : String) (pace : Pace) (limit : Nat) :
    (let size := ((suffolk input).normalize program.toText).length
      let state := Suffolk.run input program
      let last := ((Engine.create (suffolk input) program pace).value.runToEnd limit).value
      (∀ n, (state n).index = n % (size + 1) ∧
        ((state n).ended = true ↔ 0 < n ∧ size + 1 ∣ n)) ∧
      last.OnePass size limit ∧
      ((state 0).code.toList.take limit).foldlM (fun s op => Suffolk.perform op s) (state 0) =
        .ok (Suffolk.State.place ⟨0, false⟩ last.state)) ∧
    (let size := (stunStep.normalize program.toText).length
      let state := StunStep.run program
      let last := ((Engine.create stunStep program pace).value.runToEnd limit).value
      let deadEnds := {t | 0 < t ∧ size + 1 ∣ t ∧ (state t).tape.current = 0}
      (∀ n, (∀ t ∈ deadEnds, n ≤ t) → (state n).index = n % (size + 1) ∧
        ((state n).ended = true ↔ 0 < n ∧ size + 1 ∣ n)) ∧
      (∀ stop, IsLeast deadEnds stop → ∀ n, stop ≤ n → state n = state stop) ∧
      last.OnePass size limit ∧
      ((state 0).code.toList.take limit).foldlM (fun tape op => StunStep.perform op tape)
        (state 0).tape = .ok (StunStep.State.tape last.state)) := by
  constructor
  · intro size state last
    have counted : size = (Suffolk.readCode program.toText).size :=
      Suffolk.length_normalize input program.toText
    have lap := Suffolk.makesLap input program
    have walked := foldlM_take_of_walks rfl (fun m _ => Suffolk.walks_run input program m) limit
    have final : last.state = state (min limit (size + 1)) := by
      rw [counted]
      exact Engine.state_runToEnd_create lap pace limit
    rw [counted] at final ⊢
    refine ⟨?_, Engine.onePass_runToEnd_create lap pace limit, ?_⟩
    · intro n
      exact Control.eq_after_iff.mp (Suffolk.control_run input program n)
    · rw [final]
      exact walked
  · intro size state last deadEnds
    have counted : size = (StunStep.readCode program.toText).size :=
      StunStep.length_normalize program.toText
    have lap := StunStep.makesLap program
    have walked := foldlM_take_of_walks rfl
      (fun m (inside : m ≤ (StunStep.readCode program.toText).size) =>
        StunStep.walks_run_of_le inside) limit
    have final : last.state = state (min limit (size + 1)) := by
      rw [counted]
      exact Engine.state_runToEnd_create lap pace limit
    have ends : deadEnds = StunStep.deadEnds program := by
      simp only [deadEnds, counted]
      rfl
    rw [counted] at final ⊢
    rw [ends]
    refine ⟨?_, ?_, Engine.onePass_runToEnd_create lap pace limit, ?_⟩
    · intro n alive
      exact Control.eq_after_iff.mp (StunStep.control_run alive)
    · intro stop least n later
      exact StunStep.run_eq_of_isLeast_deadEnds least later
    · rw [final]
      exact walked

/-- Two instructions that undo each other: the first lap ends on a zero cell. -/
theorem text_runs_go_in_laps_of_dead_first_lap :
    let program := Program.text "+-"
    let state := StunStep.run program
    let size := (stunStep.normalize program.toText).length
    let deadEnds := {t | 0 < t ∧ size + 1 ∣ t ∧ (state t).tape.current = 0}
    size + 1 = 3 ∧ IsLeast deadEnds 3 ∧
      (state 3).index = 0 ∧ (state 3).ended = true ∧ state 100 = state 3 := by
  intro program state size deadEnds
  have three : size + 1 = 3 := by decide +kernel
  have divides : size + 1 ∣ 3 := ⟨1, by omega⟩
  have least : IsLeast deadEnds 3 := by
    constructor
    · exact ⟨by decide, divides, by decide +kernel⟩
    · rintro t ⟨positive, lap, _⟩
      exact three.symm.trans_le (Nat.le_of_dvd positive lap)
  obtain ⟨_, inLaps, stays, _⟩ := text_runs_go_in_laps program "" {} 0
  obtain ⟨index, ended⟩ := inLaps 3 fun t dead => least.2 dead
  refine ⟨three, least, ?_, ended.mpr ⟨by decide, divides⟩, stays 3 least 100 (by decide)⟩
  exact index.trans (Nat.mod_eq_zero_of_dvd divides)

end StepLab
