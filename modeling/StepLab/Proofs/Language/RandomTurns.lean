import Mathlib.Data.Nat.Count
import StepLab.Proofs.Language.TorusRuns

/-! # Random turns

WII2D keeps the seed of its next random turn in its state.  A random turn takes its velocity
from that seed alone and puts the next seed in its place; no other instruction, no warp and
no full stop touches it.  So the seeds of a run are one sequence, one further for each random
turn that was executed, whatever the grid.  Until the first random turn nothing depends on
the seed at all. -/

set_option autoImplicit false

namespace StepLab.Wii2d

/-- The seed after the random turn with a seed. -/
def nextSeed : UInt64 → UInt64 := Prod.snd ∘ randomTurn

/-- The cell that is executed next is a random turn. -/
def State.AtRandomTurn (s : State) : Prop :=
  s.ended = false ∧ s.position.bind s.grid.get? = some '?'

instance (s : State) : Decidable s.AtRandomTurn :=
  inferInstanceAs (Decidable (s.ended = false ∧ s.position.bind s.grid.get? = some '?'))

/-- How many random turns the first steps of a run execute. -/
def randomTurns (seed : UInt64) (program : Program) (n : Nat) : Nat :=
  Nat.count (fun i => (run seed program i).AtRandomTurn) n

/-! ## One instruction -/

theorem Op.ofChar?_eq_turnRandom_iff (c : Char) : Op.ofChar? c = some .turnRandom ↔ c = '?' := by
  constructor
  · intro read
    unfold Op.ofChar? at read
    iterate 5 replace read := eq_some_of_ite read nofun
    by_contra other
    rw [if_neg other] at read
    iterate 9 replace read := eq_some_of_ite read nofun
    contradiction
  · rintro rfl
    rfl

theorem opAt_eq_turnRandom_iff (g : Grid) (position : Nat) :
    opAt g position = some .turnRandom ↔ g.get? position = some '?' := by
  simp [opAt, Option.bind_eq_some_iff, Op.ofChar?_eq_turnRandom_iff]

theorem State.atRandomTurn_iff {s : State} (going : s.ended = false) {position : Nat}
    (here : s.position = some position) :
    s.AtRandomTurn ↔ opAt s.grid position = some .turnRandom := by
  rw [opAt_eq_turnRandom_iff, AtRandomTurn, here]
  simp [going]

theorem rng_turned (s : State) (velocity : Int8) (rng : UInt64) :
    ({ s with velocity, rng } : State).rng = rng := rfl

-- Rewriting alone: the kernel must not evaluate the random turn.
theorem perform_turnRandom (s : State) :
    (perform .turnRandom s).velocity = (randomTurn s.rng).1 ∧
      (perform .turnRandom s).rng = nextSeed s.rng := by
  constructor
  · rw [perform, velocity_turned]
  · rw [perform, rng_turned, nextSeed, Function.comp_apply]

theorem kept_of_advance {s next : State} {position : Nat}
    (advanced : advance s position = .ok next) :
    next.velocity = s.velocity ∧ next.rng = s.rng := by
  obtain ⟨cell, rfl⟩ := exists_of_map_eq_ok advanced
  exact ⟨rfl, rfl⟩

theorem turned_of_execute {s next : State} (turns : s.AtRandomTurn)
    (executed : execute s = .ok next) :
    next.velocity = (randomTurn s.rng).1 ∧ next.rng = nextSeed s.rng := by
  obtain ⟨position, here, _⟩ := Option.bind_eq_some_iff.mp turns.2
  have read := (State.atRandomTurn_iff turns.1 here).mp turns
  simp only [execute, turns.1, here, executeAt, read] at executed
  obtain ⟨velocity, rng⟩ := kept_of_advance executed
  obtain ⟨turned, seeded⟩ := perform_turnRandom s
  exact ⟨velocity.trans turned, rng.trans seeded⟩

/-! ## Everything else -/

/-- The same state with another seed. -/
def State.reseeded (s : State) (rng : UInt64) : State := { s with rng }

theorem perform_reseeded {op : Op} (other : op ≠ .turnRandom) (s : State) (rng : UInt64) :
    perform op (s.reseeded rng) = (perform op s).reseeded rng := by
  cases op with
  | turnRandom => contradiction
  | turn _ | turnBack | digit _ | raise | lower | double | square | halve | print =>
      rw [perform, perform]
      rfl
  | warp | halt => rw [perform, perform]

theorem advance_reseeded (s : State) (rng : UInt64) (position : Nat) :
    advance (s.reseeded rng) position = (advance s position).map (State.reseeded · rng) := by
  unfold advance
  show (s.grid.dims.move position s.velocity).map _ = _
  cases s.grid.dims.move position s.velocity with
  | error fault => rfl
  | ok cell => rfl

theorem executeAt_reseeded {s : State} {position : Nat}
    (other : opAt s.grid position ≠ some .turnRandom) (rng : UInt64) :
    executeAt (s.reseeded rng) position =
      (executeAt s position).map (State.reseeded · rng) := by
  have grid : (s.reseeded rng).grid = s.grid := rfl
  unfold executeAt
  rw [grid]
  split
  · exact advance_reseeded s rng position
  · cases s.grid.dims.move (warpTarget s.grid position) Direction.up.velocity with
    | error fault => rfl
    | ok cell => rfl
  · rfl
  · rename_i op _ _ read
    have noTurn : op ≠ .turnRandom := by
      rintro rfl
      exact other read
    rw [perform_reseeded noTurn]
    exact advance_reseeded _ rng position

/-- Away from random turns a step carries the seed along and does not look at it. -/
theorem execute_reseeded {s : State} (other : ¬ s.AtRandomTurn) (rng : UInt64) :
    execute (s.reseeded rng) = (execute s).map (State.reseeded · rng) := by
  have ended : (s.reseeded rng).ended = s.ended := rfl
  have position : (s.reseeded rng).position = s.position := rfl
  rw [execute, execute, ended, position]
  cases going : s.ended with
  | true => rfl
  | false =>
      cases here : s.position with
      | none => rfl
      | some position =>
          rw [State.atRandomTurn_iff going here] at other
          exact executeAt_reseeded other rng

theorem rng_of_execute {s next : State} (other : ¬ s.AtRandomTurn)
    (executed : execute s = .ok next) : next.rng = s.rng := by
  have same : execute s = (execute s).map (State.reseeded · s.rng) := execute_reseeded other s.rng
  have kept : next = next.reseeded s.rng := by
    rw [executed] at same
    exact Except.ok.inj same
  rw [kept]
  rfl

/-! ## Runs -/

section Run

variable (seed : UInt64) (program : Program) (n : Nat)

theorem randomTurns_succ :
    randomTurns seed program (n + 1) =
      randomTurns seed program n + if (run seed program n).AtRandomTurn then 1 else 0 :=
  Nat.count_succ _ _

theorem execute_run : execute (run seed program n) = .ok (run seed program (n + 1)) := by
  obtain ⟨next, executed, _⟩ := execute_sound program _ (coursed_run seed program n).sound
  rw [run_succ, (wii2d seed).step_eq_of_execute executed]
  exact executed

theorem rng_run : (run seed program n).rng = nextSeed^[randomTurns seed program n] seed := by
  induction n with
  | zero => rfl
  | succ n ih =>
      rw [randomTurns_succ]
      by_cases turns : (run seed program n).AtRandomTurn
      · rw [if_pos turns, (turned_of_execute turns (execute_run seed program n)).2, ih,
          Function.iterate_succ_apply']
      · rw [if_neg turns, rng_of_execute turns (execute_run seed program n), ih]
        rfl

end Run

/-- A run that has not executed a random turn is the run of any other seed. -/
theorem run_reseeded {seed : UInt64} {program : Program} {n : Nat}
    (none : randomTurns seed program n = 0) (other : UInt64) :
    run other program n = (run seed program n).reseeded other := by
  induction n with
  | zero => rfl
  | succ n ih =>
      rw [randomTurns_succ] at none
      have straight : ¬ (run seed program n).AtRandomTurn := by
        intro turns
        rw [if_pos turns] at none
        contradiction
      have executed := execute_reseeded straight other
      rw [execute_run, ← ih (by omega)] at executed
      exact Except.ok.inj ((execute_run other program n).symm.trans executed)

/-- The seed of a run is the first one moved on once for each random turn that was executed,
and a random turn takes its velocity from the seed alone.  Runs with two seeds agree in all
but the seed as long as the one of them executes no random turn. -/
theorem random_turns_follow_seed (seed : UInt64) (program : Program) (n : Nat) :
    (run seed program n).rng = nextSeed^[randomTurns seed program n] seed ∧
    ((run seed program n).AtRandomTurn →
      (run seed program (n + 1)).velocity = (randomTurn (run seed program n).rng).1) ∧
    ∀ other, randomTurns seed program n = 0 →
      run other program n = { run seed program n with rng := other } := by
  refine ⟨rng_run seed program n, ?_, ?_⟩
  · intro turns
    exact (turned_of_execute turns (execute_run seed program n)).1
  · intro other none
    exact run_reseeded none other

/-- The first step goes up from the start to a random turn, the second one executes it. -/
theorem random_turns_follow_seed_above_start :
    let program := Program.grid (Grid.ofCells ⟨2, 1⟩ ['?', '!'])
    (run 7 program 1).AtRandomTurn ∧ (run 7 program 2).velocity = -1 ∧
      randomTurns 7 program 2 = 1 ∧ (run 7 program 2).rng = 8186033631819050777 ∧
      randomTurns 7 program 1 = 0 ∧ run 8 program 1 = { run 7 program 1 with rng := 8 } := by
  intro program
  have turns : (run 7 program 1).AtRandomTurn := by decide +kernel
  have none : randomTurns 7 program 1 = 0 := by decide +kernel
  have one : randomTurns 7 program 2 = 1 := by decide +kernel
  obtain ⟨first, turned, agree⟩ := random_turns_follow_seed 7 program 1
  obtain ⟨second, _, _⟩ := random_turns_follow_seed 7 program 2
  rw [none] at first
  rw [one] at second
  refine ⟨turns, ?_, one, ?_, none, agree 8 none⟩
  · rw [turned turns, first]
    decide +kernel
  · rw [second]
    decide +kernel

end StepLab.Wii2d
