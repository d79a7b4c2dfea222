import StepLab.Language.Back
import StepLab.Language.Wii2d
import StepLab.Proofs.Language.TapeMachines

/-! # The machines on a torus

A machine on a torus is placed when it stands on a cell of the grid it was seeded with
for as long as it goes on, and nowhere once it has ended.  A grid on which a machine
stands has cells, so every move from there has a target, and the target is a cell
again: the remainder of a move is taken by the number of cells.  Neither a grid
without cells nor one without a start is ever moved on, since both have ended from
the start. -/

set_option autoImplicit false

namespace StepLab

theorem Grid.mem_positions_iff (g : Grid) (c : Char) (i : Nat) :
    i ∈ g.positions c ↔ g.get? i = some c := by
  simp [positions, List.mem_zipIdx_iff_getElem?, get?]

theorem Grid.lt_area_of_get?_eq_some (g : Grid) (i : Nat) (c : Char)
    (found : g.get? i = some c) : i < g.dims.area := by
  rw [← isSome_get?_iff, found]
  rfl

/-- A machine stands on a cell of its program's grid until it ends. -/
structure Placed (program : Program) (grid : Grid) (position : Option Nat)
    (ended : Bool) : Prop where
  grid_eq : grid = program.toGrid
  inside : ∀ i ∈ position, i < grid.dims.area
  ended_iff : position = none ↔ ended = true

namespace Placed

variable {program : Program} {grid : Grid} {position : Option Nat} {ended : Bool}

theorem area_pos (placed : Placed program grid position ended)
    (going : ended = false) : 0 < grid.dims.area := by
  cases position with
  | none =>
      have hasEnded := placed.ended_iff.mp rfl
      rw [going] at hasEnded
      contradiction
  | some i => exact Nat.zero_lt_of_lt (placed.inside i rfl)

theorem exists_position (placed : Placed program grid position ended)
    (going : ended = false) : ∃ i, position = some i := by
  cases position with
  | none =>
      have hasEnded := placed.ended_iff.mp rfl
      rw [going] at hasEnded
      contradiction
  | some i => exact ⟨i, rfl⟩

theorem moved (placed : Placed program grid position ended) (going : ended = false)
    (start : Nat) (velocity : Int8) :
    Placed program grid (some (grid.dims.target start velocity)) ended where
  grid_eq := placed.grid_eq
  inside i here := by
    cases here
    exact Dims.target_lt_area _ start velocity (placed.area_pos going)
  ended_iff := by simp [going]

end Placed

namespace Wii2d

def Sound (program : Program) (s : State) : Prop :=
  Placed program s.grid s.position s.ended

theorem start?_lt_area (g : Grid) (i : Nat) (found : start? g = some i) :
    i < g.dims.area := by
  have listed : i ∈ g.positions startMark := by
    unfold start? at found
    split at found
    · rename_i only positions
      cases found
      simp [positions]
    · contradiction
  exact g.lt_area_of_get?_eq_some i startMark ((g.mem_positions_iff startMark i).mp listed)

theorem seed_sound (rng : UInt64) (program : Program) :
    Sound program (seed rng program.toGrid) where
  grid_eq := rfl
  inside i here := start?_lt_area program.toGrid i here
  ended_iff := by simp [seed]

/-- An instruction alone neither moves nor ends a program. -/
theorem perform_frame (op : Op) (s : State) :
    (perform op s).grid = s.grid ∧ (perform op s).position = s.position ∧
      (perform op s).ended = s.ended := by
  -- Rewriting first keeps the kernel from comparing whole states, which would
  -- evaluate the random turn.
  cases op <;> rw [perform] <;> exact ⟨rfl, rfl, rfl⟩

theorem perform_sound (program : Program) (op : Op) (s : State) (sound : Sound program s) :
    Sound program (perform op s) := by
  obtain ⟨grid, position, ended⟩ := perform_frame op s
  rw [Sound, grid, position, ended]
  exact sound

theorem advance_sound (program : Program) (s : State) (start : Nat)
    (sound : Sound program s) (going : s.ended = false) :
    ∃ next, advance s start = .ok next ∧ Sound program next := by
  rw [advance, Dims.move_of_area_pos _ start s.velocity (sound.area_pos going)]
  exact ⟨_, rfl, sound.moved going start s.velocity⟩

theorem executeAt_sound (program : Program) (s : State) (start : Nat)
    (sound : Sound program s) (going : s.ended = false) :
    ∃ next, executeAt s start = .ok next ∧ Sound program next := by
  unfold executeAt
  split
  · exact advance_sound program s start sound going
  · rw [Dims.move_of_area_pos _ _ _ (sound.area_pos going)]
    exact ⟨_, rfl, sound.moved going _ _⟩
  · exact ⟨_, rfl, sound.grid_eq, by simp, by simp⟩
  · rename_i op _ _ _
    have performed := perform_sound program op s sound
    exact advance_sound program (perform op s) start performed
      ((perform_frame op s).2.2.trans going)

theorem execute_sound (program : Program) (s : State) (sound : Sound program s) :
    ∃ next, execute s = .ok next ∧ Sound program next := by
  cases going : s.ended with
  | true => exact ⟨s, by simp [execute, going], sound⟩
  | false =>
      obtain ⟨i, here⟩ := sound.exists_position going
      simp only [execute, going, here]
      exact executeAt_sound program s i sound going

theorem invariant (rng : UInt64) : (wii2d rng).Invariant Sound where
  seed := seed_sound rng
  execute := execute_sound

end Wii2d

namespace Back

structure Sound (program : Program) (s : State) : Prop where
  placed : Placed program s.grid s.position s.ended
  tape : s.tape.Inside

theorem seed_sound (program : Program) : Sound program (seed program.toGrid) := by
  refine ⟨⟨rfl, ?_, ?_⟩, Tape.inside_default⟩
  · intro i here
    by_cases bare : program.toGrid.dims.area = 0
    · simp [seed, bare] at here
    · simp only [seed, bare, if_false, Option.mem_some_iff] at here
      subst here
      exact Nat.pos_of_ne_zero bare
  · by_cases bare : program.toGrid.dims.area = 0 <;> simp [seed, bare]

theorem advance_sound (program : Program) (s : State) (start : Nat)
    (sound : Sound program s) (going : s.ended = false) :
    ∃ next, advance s start = .ok next ∧ Sound program next := by
  rw [advance, Dims.move_of_area_pos _ start s.velocity (sound.placed.area_pos going)]
  exact ⟨_, rfl, sound.placed.moved going start s.velocity, sound.tape⟩

theorem scan_of_area_pos (g : Grid) (velocity : Int8) (cells : 0 < g.dims.area)
    (fuel start : Nat) : ∃ cell, scan g velocity fuel start = .ok cell := by
  induction fuel generalizing start with
  | zero => exact ⟨start, rfl⟩
  | succ fuel ih =>
      simp only [scan, Dims.move_of_area_pos _ start velocity cells]
      split
      · exact ⟨_, rfl⟩
      · exact ih _

/-- Turning keeps the place, and a move on the tape keeps its pointer on it. -/
theorem executeAt_sound (program : Program) (s : State) (start : Nat)
    (sound : Sound program s) (going : s.ended = false) :
    ∃ next, executeAt s start = .ok next ∧ Sound program next := by
  have placed := sound.placed
  have inside := sound.tape
  unfold executeAt
  split
  · exact advance_sound program _ start ⟨placed, inside⟩ going
  · exact advance_sound program _ start ⟨placed, inside⟩ going
  · exact advance_sound program _ start ⟨placed, inside.left⟩ going
  · exact advance_sound program _ start ⟨placed, inside.right 0⟩ going
  · rw [Tape.update_of_inside s.tape inside]
    exact advance_sound program _ start ⟨placed, inside.write _⟩ going
  · rw [Tape.read_of_inside s.tape inside]
    obtain ⟨cell, scanned⟩ := scan_of_area_pos s.grid s.velocity
      (placed.area_pos going) s.grid.dims.area start
    by_cases zero : s.tape.current = 0
    · obtain ⟨next, advanced, kept⟩ := advance_sound program s cell sound going
      exact ⟨next, by simp [bind, Except.bind, zero, skipTo, scanned, advanced], kept⟩
    · obtain ⟨next, advanced, kept⟩ := advance_sound program s start sound going
      exact ⟨next, by simp [bind, Except.bind, zero, advanced], kept⟩
  · exact advance_sound program s start sound going
  · exact advance_sound program s start sound going

theorem execute_sound (program : Program) (s : State) (sound : Sound program s) :
    ∃ next, execute s = .ok next ∧ Sound program next := by
  cases going : s.ended with
  | true => exact ⟨s, by simp [execute, going], sound⟩
  | false =>
      obtain ⟨i, here⟩ := sound.placed.exists_position going
      simp only [execute, going, here]
      exact executeAt_sound program s i sound going

theorem invariant : back.Invariant Sound where
  seed := seed_sound
  execute := execute_sound

end Back

end StepLab
