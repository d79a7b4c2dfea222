import StepLab.Proofs.Language.TorusMachines

/-! # Runs on a torus

A machine on a torus always goes in one of the four directions: mirrors and turns lead
from a velocity of a direction to another one, and so does a random turn.  Back writes
nothing but bits on its tape and ends only where there is no cell to start from.  WII2D
has ended when there is not exactly one start marker, or once it has executed the cell
of a full stop; it then stands still for good. -/

set_option autoImplicit false

namespace StepLab

theorem exists_of_bind_eq_ok {α β : Type} {x : Except Fault α} {f : α → Except Fault β} {b : β}
    (bound : x >>= f = .ok b) : ∃ a, x = .ok a ∧ f a = .ok b := by
  cases x with
  | error fault => cases bound
  | ok a => exact ⟨a, rfl, bound⟩

theorem exists_of_map_eq_ok {α β : Type} {x : Except Fault α} {f : α → β} {b : β}
    (mapped : x.map f = .ok b) : ∃ a, b = f a := by
  cases x with
  | error fault => cases mapped
  | ok a =>
      cases mapped
      exact ⟨a, rfl⟩

/-- The velocities of the four directions. -/
def Direction.velocities : List Int8 := [-2, -1, 1, 2]

namespace Direction

theorem velocity_mem (d : Direction) : d.velocity ∈ velocities := by
  cases d <;> decide

theorem neg_mem_velocities : ∀ v ∈ velocities, -v ∈ velocities := by decide +kernel

end Direction

namespace Back

/-! ## Back -/

theorem falling_mem_velocities :
    ∀ v ∈ Direction.velocities, mirrorSum v - v ∈ Direction.velocities := by decide +kernel

theorem rising_mem_velocities :
    ∀ v ∈ Direction.velocities, v - mirrorSum v ∈ Direction.velocities := by decide +kernel

theorem eq_of_advance {s next : State} {position : Nat} (advanced : advance s position = .ok next) :
    ∃ cell, next = { s with position := some cell } :=
  exists_of_map_eq_ok advanced

/-- All that a step of a run can do to a state, its position apart. -/
inductive Effect (s : State) : State → Prop where
  | went (cell : Nat) : Effect s { s with position := some cell }
  | fell (cell : Nat) :
      Effect s { s with velocity := mirrorSum s.velocity - s.velocity, position := some cell }
  | rose (cell : Nat) :
      Effect s { s with velocity := s.velocity - mirrorSum s.velocity, position := some cell }
  | wentLeft (cell : Nat) : Effect s { s with tape := s.tape.left, position := some cell }
  | wentRight (cell : Nat) : Effect s { s with tape := s.tape.right 0, position := some cell }
  | flipped (cell : Nat) (tape : Tape) (updated : s.tape.update (· ^^^ 1) = .ok tape) :
      Effect s { s with tape, position := some cell }

theorem effect_executeAt {s next : State} {position : Nat}
    (executed : executeAt s position = .ok next) : Effect s next := by
  unfold executeAt at executed
  split at executed
  · obtain ⟨cell, rfl⟩ := eq_of_advance executed
    exact .fell cell
  · obtain ⟨cell, rfl⟩ := eq_of_advance executed
    exact .rose cell
  · obtain ⟨cell, rfl⟩ := eq_of_advance executed
    exact .wentLeft cell
  · obtain ⟨cell, rfl⟩ := eq_of_advance executed
    exact .wentRight cell
  · obtain ⟨tape, updated, advanced⟩ := exists_of_bind_eq_ok executed
    obtain ⟨cell, rfl⟩ := eq_of_advance advanced
    exact .flipped cell tape updated
  · obtain ⟨bit, _, skipped⟩ := exists_of_bind_eq_ok executed
    have advances : ∃ reached, advance s reached = .ok next := by
      dsimp only at skipped
      split at skipped
      · obtain ⟨reached, _, advanced⟩ := exists_of_bind_eq_ok skipped
        exact ⟨reached, advanced⟩
      · exact ⟨position, skipped⟩
    obtain ⟨reached, advanced⟩ := advances
    obtain ⟨cell, rfl⟩ := eq_of_advance advanced
    exact .went cell
  · obtain ⟨cell, rfl⟩ := eq_of_advance executed
    exact .went cell
  · obtain ⟨cell, rfl⟩ := eq_of_advance executed
    exact .went cell

/-- Every cell of the tape is a bit. -/
def Bits (t : Tape) : Prop := ∀ cell ∈ t.cells, cell = 0 ∨ cell = 1

theorem Bits.right {t : Tape} (bits : Bits t) : Bits (t.right 0) := by
  intro cell member
  unfold Tape.right at member
  split at member
  · rcases Array.mem_push.mp member with old | new
    · exact bits cell old
    · exact Or.inl new
  · exact bits cell member

theorem Bits.flip {t after : Tape} (bits : Bits t) (flipped : t.update (· ^^^ 1) = .ok after) :
    Bits after := by
  unfold Tape.update Tape.read at flipped
  cases found : t.cells[t.pointer]? with
  | none =>
      rw [found] at flipped
      cases flipped
  | some bit =>
      rw [found] at flipped
      cases flipped
      intro cell member
      rcases Array.mem_or_eq_of_mem_setIfInBounds member with old | rfl
      · exact bits cell old
      · rcases bits bit (Array.mem_of_getElem? found) with rfl | rfl
        · exact Or.inr rfl
        · exact Or.inl rfl

/-- What is true of every state of a run, besides standing on the grid and on the tape. -/
structure Coursed (program : Program) (s : State) : Prop where
  sound : Sound program s
  steers : s.velocity ∈ Direction.velocities
  bits : Bits s.tape
  ended_iff : s.ended = true ↔ program.toGrid.cells = #[]

theorem seed_coursed (program : Program) : Coursed program (seed program.toGrid) where
  sound := seed_sound program
  steers := Direction.velocity_mem .right
  bits cell member := by
    left
    simpa [seed] using member
  ended_iff := by
    rw [← Array.size_eq_zero_iff, program.toGrid.size_cells]
    simp [seed]

theorem Effect.coursed {program : Program} {s next : State} (effect : Effect s next)
    (coursed : Coursed program s) (sound : Sound program next) : Coursed program next := by
  obtain ⟨_, steers, bits, ended⟩ := coursed
  cases effect with
  | went cell => exact ⟨sound, steers, bits, ended⟩
  | fell cell => exact ⟨sound, falling_mem_velocities _ steers, bits, ended⟩
  | rose cell => exact ⟨sound, rising_mem_velocities _ steers, bits, ended⟩
  | wentLeft cell => exact ⟨sound, steers, bits, ended⟩
  | wentRight cell => exact ⟨sound, steers, bits.right, ended⟩
  | flipped cell tape updated => exact ⟨sound, steers, bits.flip updated, ended⟩

theorem execute_coursed (program : Program) (s : State) (coursed : Coursed program s) :
    ∃ next, execute s = .ok next ∧ Coursed program next := by
  obtain ⟨next, executed, sound⟩ := execute_sound program s coursed.sound
  refine ⟨next, executed, ?_⟩
  unfold execute at executed
  split at executed
  · cases executed
    exact coursed
  · split at executed
    · cases executed
      exact coursed
    · exact (effect_executeAt executed).coursed coursed sound

theorem coursed_invariant : back.Invariant Coursed where
  seed := seed_coursed
  execute := execute_coursed

/-- The state after some steps from the seed. -/
def run (program : Program) (n : Nat) : State := back.step^[n] (back.seed program)

theorem coursed_run (program : Program) (n : Nat) : Coursed program (run program n) :=
  coursed_invariant.iterate program n

end Back

theorem Grid.length_positions (g : Grid) (c : Char) :
    (g.positions c).length = g.cells.count c := by
  have marked : g.cells.toList.zipIdx.countP (fun cell => cell.1 = c) =
      (g.cells.toList.zipIdx.map Prod.fst).countP (· = c) := by
    rw [List.countP_map]
    rfl
  rw [positions, List.length_map, ← List.countP_eq_length_filter, marked, List.zipIdx_map_fst,
    ← Array.count_toList]
  rfl

namespace Wii2d

/-! ## WII2D -/

theorem eq_some_of_ite {p : Prop} [Decidable p] {op result : Op} {rest : Option Op}
    (read : (if p then some op else rest) = some result) (other : op ≠ result) :
    rest = some result := by
  split at read
  · exact absurd (Option.some.inj read) other
  · exact read

theorem Op.ofChar?_eq_halt_iff (c : Char) : Op.ofChar? c = some .halt ↔ c = '.' := by
  constructor
  · intro read
    unfold Op.ofChar? at read
    -- The full stop is the last of the characters that are compared with.
    iterate 14 replace read := eq_some_of_ite read nofun
    split at read
    · assumption
    · contradiction
  · rintro rfl
    rfl

theorem opAt_eq_halt_iff (g : Grid) (position : Nat) :
    opAt g position = some .halt ↔ g.get? position = some '.' := by
  simp [opAt, Option.bind_eq_some_iff, Op.ofChar?_eq_halt_iff]

theorem pickQuarter_lt (generator : Random.Generator) : generator.pickQuarter.1 < 4 := by
  unfold Random.Generator.pickQuarter
  obtain ⟨word, rest⟩ := Random.Generator.drawAccepted Random.Generator.maxTries generator
  have size := word.toNat_lt
  have top : (word >>> 62).toNat = word.toNat / 2 ^ 62 := by
    rw [UInt64.toNat_shiftRight, Nat.shiftRight_eq_div_pow]
    rfl
  show (word >>> 62).toNat < 4
  omega

theorem velocity_of_choice_mem {choice : Nat} (inside : choice < Direction.all.length) :
    ((Direction.all[choice]?).map Direction.velocity).getD 0 ∈ Direction.velocities := by
  rw [List.getElem?_eq_getElem inside]
  exact Direction.velocity_mem _

/-- A source of turns that leads in one of the four directions, whatever the seed. -/
def Steers (turn : UInt64 → Int8 × UInt64) : Prop :=
  ∀ seed, (turn seed).1 ∈ Direction.velocities

theorem steers_of_pick (start : UInt64 → Random.Generator)
    (pick : Random.Generator → Nat × Random.Generator)
    (bound : ∀ generator, (pick generator).1 < Direction.all.length) :
    Steers fun seed =>
      let (choice, rest) := pick (start seed)
      (((Direction.all[choice]?).map Direction.velocity).getD 0, rest.next.1) := by
  intro seed
  exact velocity_of_choice_mem (bound (start seed))

-- Of the function and not of one turn: the kernel evaluates the draw of a turn that it
-- has to compare with another term.
theorem steers_randomTurn : Steers randomTurn :=
  steers_of_pick Random.Generator.ofSeed Random.Generator.pickQuarter pickQuarter_lt

/-- All that a step at a cell can do: only a full stop ends a run. -/
inductive Effect (s : State) (position : Nat) : State → Prop where
  | halted (stop : s.grid.get? position = some '.') :
      Effect s position { s with position := none, ended := true }
  | went (cell : Nat) (other : s.grid.get? position ≠ some '.') :
      Effect s position { s with position := some cell }
  | performed (op : Op) (cell : Nat) (other : s.grid.get? position ≠ some '.') :
      Effect s position { perform op s with position := some cell }

theorem effect_executeAt {s next : State} {position : Nat}
    (executed : executeAt s position = .ok next) : Effect s position next := by
  have stops := opAt_eq_halt_iff s.grid position
  unfold executeAt at executed
  split at executed
  · rename_i read
    obtain ⟨cell, rfl⟩ := exists_of_map_eq_ok executed
    exact .went cell (by simp [← stops, read])
  · rename_i read
    obtain ⟨cell, rfl⟩ := exists_of_map_eq_ok executed
    exact .went cell (by simp [← stops, read])
  · rename_i read
    cases executed
    exact .halted (stops.mp read)
  · rename_i op _ notHalt read
    obtain ⟨cell, rfl⟩ := exists_of_map_eq_ok executed
    exact .performed op cell (by simpa [← stops, read] using notHalt)

theorem velocity_turned (s : State) (velocity : Int8) (rng : UInt64) :
    ({ s with velocity, rng } : State).velocity = velocity := rfl

theorem perform_steers (op : Op) {s : State} (steers : s.velocity ∈ Direction.velocities) :
    (perform op s).velocity ∈ Direction.velocities := by
  -- Rewriting first, as in `perform_frame`: the kernel must not evaluate the random turn.
  cases op with
  | turn direction =>
      rw [perform]
      exact Direction.velocity_mem direction
  | turnBack =>
      rw [perform]
      exact Direction.neg_mem_velocities _ steers
  | turnRandom =>
      rw [perform, velocity_turned]
      exact steers_randomTurn s.rng
  | digit _ | raise | lower | double | square | halve | print | warp | halt =>
      rw [perform]
      exact steers

/-- A run stays on its grid and goes in one of the four directions. -/
structure Coursed (program : Program) (s : State) : Prop where
  sound : Sound program s
  steers : s.velocity ∈ Direction.velocities

theorem Effect.steers {s next : State} {position : Nat} (effect : Effect s position next)
    (steers : s.velocity ∈ Direction.velocities) : next.velocity ∈ Direction.velocities := by
  cases effect with
  | halted stop => exact steers
  | went cell other => exact steers
  | performed op cell other => exact perform_steers op steers

theorem Effect.ended_iff {s next : State} {position : Nat} (effect : Effect s position next)
    (going : s.ended = false) : next.ended = true ↔ s.grid.get? position = some '.' := by
  cases effect with
  | halted stop => simp [stop]
  | went cell other => simp [going, other]
  | performed op cell other => simp [(perform_frame op s).2.2, going, other]

theorem execute_of_ended {s : State} (ended : s.ended = true) : execute s = .ok s := by
  simp [execute, ended]

theorem exists_effect_of_execute {program : Program} {s next : State} (sound : Sound program s)
    (going : s.ended = false) (executed : execute s = .ok next) :
    ∃ position, s.position = some position ∧ Effect s position next := by
  obtain ⟨position, here⟩ := sound.exists_position going
  simp only [execute, going, here] at executed
  exact ⟨position, here, effect_executeAt executed⟩

theorem execute_coursed (program : Program) (s : State) (coursed : Coursed program s) :
    ∃ next, execute s = .ok next ∧ Coursed program next := by
  obtain ⟨next, executed, sound⟩ := execute_sound program s coursed.sound
  refine ⟨next, executed, sound, ?_⟩
  cases going : s.ended with
  | true =>
      rw [execute_of_ended going] at executed
      cases executed
      exact coursed.steers
  | false =>
      obtain ⟨position, _, effect⟩ := exists_effect_of_execute coursed.sound going executed
      exact effect.steers coursed.steers

theorem coursed_invariant (rng : UInt64) : (wii2d rng).Invariant Coursed where
  seed program := ⟨seed_sound rng program, Direction.velocity_mem .up⟩
  execute := execute_coursed

theorem seed_ended_iff (rng : UInt64) (g : Grid) :
    (seed rng g).ended = true ↔ g.cells.count '!' ≠ 1 := by
  have counted := g.length_positions startMark
  rw [startMark] at counted
  show (start? g).isNone = true ↔ _
  rw [← counted, start?, startMark]
  split
  · rename_i only positions
    simp [positions]
  · rename_i several
    simp only [Option.isNone_none, true_iff]
    intro single
    obtain ⟨only, positions⟩ := List.length_eq_one_iff.mp single
    exact several only positions

/-- The state after some steps from the seed. -/
def run (rng : UInt64) (program : Program) (n : Nat) : State :=
  (wii2d rng).step^[n] ((wii2d rng).seed program)

variable (rng : UInt64) (program : Program) (n : Nat)

theorem run_succ : run rng program (n + 1) = (wii2d rng).step (run rng program n) :=
  Function.iterate_succ_apply' _ _ _

theorem coursed_run : Coursed program (run rng program n) :=
  (coursed_invariant rng).iterate program n

/-- One step ends a run that goes on exactly when it is taken from a full stop. -/
theorem ended_run_succ_iff :
    (run rng program (n + 1)).ended = true ↔ (run rng program n).ended = true ∨
      ∃ position, (run rng program n).position = some position ∧
        program.toGrid.get? position = some '.' := by
  have sound := (coursed_run rng program n).sound
  obtain ⟨next, executed, _⟩ := execute_sound program _ sound
  rw [run_succ, (wii2d rng).step_eq_of_execute executed, ← sound.grid_eq]
  cases going : (run rng program n).ended with
  | true =>
      rw [execute_of_ended going] at executed
      cases executed
      simp [going]
  | false =>
      obtain ⟨position, here, effect⟩ := exists_effect_of_execute sound going executed
      simp [effect.ended_iff going, here]

theorem ended_run_iff :
    (run rng program n).ended = true ↔ program.toGrid.cells.count '!' ≠ 1 ∨
      ∃ i < n, ∃ position, (run rng program i).position = some position ∧
        program.toGrid.get? position = some '.' := by
  induction n with
  | zero =>
      rw [← seed_ended_iff rng]
      simp [run, wii2d]
  | succ n ih =>
      rw [ended_run_succ_iff, ih, or_assoc]
      refine or_congr_right ?_
      constructor
      · rintro (⟨i, earlier, stopped⟩ | stopped)
        · exact ⟨i, Nat.lt_succ_of_lt earlier, stopped⟩
        · exact ⟨n, Nat.lt_succ_self n, stopped⟩
      · rintro ⟨i, earlier, stopped⟩
        rcases Nat.lt_succ_iff_lt_or_eq.mp earlier with earlier | rfl
        · exact Or.inl ⟨i, earlier, stopped⟩
        · exact Or.inr stopped

theorem run_eq_of_ended (ended : (run rng program n).ended = true) (m : Nat) (later : n ≤ m) :
    run rng program m = run rng program n := by
  induction m, later using Nat.le_induction with
  | base => rfl
  | succ m later ih =>
      rw [run_succ, ih]
      exact (wii2d rng).step_eq_of_execute (execute_of_ended ended)

end Wii2d

/-- Runs on a torus go in the four directions; a run of Back keeps a tape of bits and
ends only without cells, and a run of WII2D ends at a full stop, for good. -/
theorem torus_runs_steer_and_end (rng : UInt64) (program : Program) (n : Nat) :
    ((Back.run program n).velocity ∈ Direction.velocities ∧
      (∀ cell ∈ (Back.run program n).tape.cells, cell = 0 ∨ cell = 1) ∧
      ((Back.run program n).ended = true ↔ program.toGrid.cells = #[])) ∧
    ((Wii2d.run rng program n).velocity ∈ Direction.velocities ∧
      ((Wii2d.run rng program n).ended = true ↔
        program.toGrid.cells.count '!' ≠ 1 ∨
          ∃ i < n, ∃ position, (Wii2d.run rng program i).position = some position ∧
            program.toGrid.get? position = some '.') ∧
      ((Wii2d.run rng program n).ended = true →
        ∀ m, n ≤ m → Wii2d.run rng program m = Wii2d.run rng program n)) := by
  have coursed := Back.coursed_run program n
  refine ⟨⟨coursed.steers, coursed.bits, coursed.ended_iff⟩, ?_, ?_, ?_⟩
  · exact (Wii2d.coursed_run rng program n).steers
  · exact Wii2d.ended_run_iff rng program n
  · exact Wii2d.run_eq_of_ended rng program n

/-- The way up from the start marker leads around to a full stop: the second step ends the
run. -/
theorem torus_runs_steer_and_end_below_start :
    let program := Program.grid (Grid.ofCells ⟨2, 1⟩ ['!', '.'])
    (Wii2d.run 0 program 1).ended = false ∧ (Wii2d.run 0 program 2).ended = true ∧
      Wii2d.run 0 program 5 = Wii2d.run 0 program 2 := by
  have ended : (Wii2d.run 0 (.grid (Grid.ofCells ⟨2, 1⟩ ['!', '.'])) 2).ended = true := by
    decide +kernel
  obtain ⟨_, _, _, final⟩ :=
    torus_runs_steer_and_end 0 (.grid (Grid.ofCells ⟨2, 1⟩ ['!', '.'])) 2
  exact ⟨by decide +kernel, ended, final ended 5 (by decide)⟩

end StepLab
