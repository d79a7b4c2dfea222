import StepLab.Proofs.Grid.Symmetry
import StepLab.Proofs.Language.TorusRuns
import StepLab.Proofs.Language.Warp

/-! # The seam of the torus

Where the numbering of the cells begins makes no difference to a machine on a torus.  A
symmetry of grids takes each state to one on the other grid, and a step commutes with it:
what is read is the same, moves correspond, and so do whole ways of a skip.  Back respects
every symmetry under which its mirrors correspond, shifts and transpositions among them.
WII2D respects shifts as long as no warp has to choose: distances do not go around the
torus, but with two warps at most there is only one other to go to. -/

set_option autoImplicit false

namespace StepLab

theorem Direction.exists_eq_velocity {v : Int8} (steers : v ∈ velocities) :
    ∃ direction, v = velocity direction := by
  simp only [velocities, List.mem_cons, List.not_mem_nil, or_false] at steers
  rcases steers with rfl | rfl | rfl | rfl
  · exact ⟨.up, rfl⟩
  · exact ⟨.left, rfl⟩
  · exact ⟨.right, rfl⟩
  · exact ⟨.down, rfl⟩

namespace Grid.Symmetry

variable {g h : Grid} (σ : Symmetry g h)

theorem move {i : Nat} (inside : i < g.dims.area) {v : Int8} (steers : v ∈ Direction.velocities) :
    h.dims.move (σ.cell i) (σ.velocity v) = (g.dims.move i v).map σ.cell := by
  have cells := Nat.zero_lt_of_lt inside
  obtain ⟨direction, rfl⟩ := Direction.exists_eq_velocity steers
  rw [Dims.move_of_area_pos _ _ _ cells, Dims.move_of_area_pos _ _ _ (σ.area_eq ▸ cells),
    σ.target i inside direction]
  rfl

end Grid.Symmetry

namespace Back

/-! ## Back -/

/-- A state whose position, velocity and pointer are where they can be in a run. -/
structure State.InRange (s : State) : Prop where
  position : ∀ i ∈ s.position, i < s.grid.dims.area
  velocity : s.velocity ∈ Direction.velocities
  pointer : s.tape.pointer < s.tape.cells.size

theorem Effect.steers {s next : State} (effect : Effect s next)
    (steers : s.velocity ∈ Direction.velocities) : next.velocity ∈ Direction.velocities := by
  cases effect with
  | went cell | wentLeft cell | wentRight cell | flipped cell tape updated => exact steers
  | fell cell => exact falling_mem_velocities _ steers
  | rose cell => exact rising_mem_velocities _ steers

/-- A step from a state in range has a result, in range again and on the same grid. -/
theorem State.InRange.execute {s : State} (inRange : s.InRange) :
    ∃ next, Back.execute s = .ok next ∧ next.InRange ∧ next.grid = s.grid := by
  cases going : s.ended with
  | true => exact ⟨s, by simp [Back.execute, going], inRange, rfl⟩
  | false =>
      cases here : s.position with
      | none => exact ⟨s, by simp [Back.execute, going, here], inRange, rfl⟩
      | some i =>
          have sound : Sound (.grid s.grid) s :=
            ⟨⟨rfl, inRange.position, by simp [here, going]⟩, inRange.pointer⟩
          obtain ⟨next, executed, kept⟩ := executeAt_sound (.grid s.grid) s i sound going
          have same : next.grid = s.grid := kept.placed.grid_eq
          have steers := (effect_executeAt executed).steers inRange.velocity
          refine ⟨next, by simp [Back.execute, going, here, executed], ?_, same⟩
          exact ⟨kept.placed.inside, steers, kept.tape⟩

/-- The state after some steps. -/
def State.after (s : State) (n : Nat) : State := back.step^[n] s

theorem after_succ (s : State) (n : Nat) : s.after (n + 1) = back.step (s.after n) :=
  Function.iterate_succ_apply' _ _ _

theorem State.InRange.after {s : State} (inRange : s.InRange) (n : Nat) :
    (s.after n).InRange ∧ (s.after n).grid = s.grid := by
  induction n with
  | zero => exact ⟨inRange, rfl⟩
  | succ n ih =>
      obtain ⟨next, executed, kept, same⟩ := ih.1.execute
      rw [after_succ, back.step_eq_of_execute executed]
      exact ⟨kept, same.trans ih.2⟩

section Symmetry

variable {g h : Grid} (σ : Grid.Symmetry g h)

/-- The state that corresponds to a state under a symmetry. -/
def State.laid (s : State) : State :=
  { s with position := s.position.map σ.cell, velocity := σ.velocity s.velocity, grid := h }

theorem laid_turned (s : State) (v : Int8) :
    { s.laid σ with velocity := σ.velocity v } = ({ s with velocity := v } : State).laid σ := rfl

/-- The mirrors correspond under a symmetry. -/
structure Mirrored : Prop where
  falling : ∀ v ∈ Direction.velocities,
    σ.velocity (mirrorSum v - v) = mirrorSum (σ.velocity v) - σ.velocity v
  rising : ∀ v ∈ Direction.velocities,
    σ.velocity (v - mirrorSum v) = σ.velocity v - mirrorSum (σ.velocity v)

theorem opAt_cell {i : Nat} (inside : i < g.dims.area) : opAt h (σ.cell i) = opAt g i := by
  rw [opAt, opAt, σ.get?_cell i inside]

theorem scan_cell {v : Int8} (steers : v ∈ Direction.velocities) (fuel : Nat) {i : Nat}
    (inside : i < g.dims.area) :
    scan h (σ.velocity v) fuel (σ.cell i) = (scan g v fuel i).map σ.cell := by
  induction fuel generalizing i with
  | zero => rfl
  | succ fuel ih =>
      have cells := Nat.zero_lt_of_lt inside
      have moved := Dims.target_lt_area g.dims i v cells
      rw [scan, scan, σ.move inside steers, Dims.move_of_area_pos _ _ _ cells]
      show (if (opAt h (σ.cell _)).isSome then _ else _) = Except.map _ (if _ then _ else _)
      rw [opAt_cell σ moved, ih moved]
      split <;> rfl

variable {s : State}

theorem skipTo_laid (grid : s.grid = g) (steers : s.velocity ∈ Direction.velocities) {i : Nat}
    (inside : i < g.dims.area) :
    skipTo (s.laid σ) (σ.cell i) = (skipTo s i).map σ.cell := by
  show scan h (σ.velocity s.velocity) h.dims.area (σ.cell i) = _
  rw [scan_cell σ steers _ inside, skipTo, grid, σ.area_eq]

theorem advance_laid (grid : s.grid = g) (steers : s.velocity ∈ Direction.velocities) {i : Nat}
    (inside : i < g.dims.area) :
    advance (s.laid σ) (σ.cell i) = (advance s i).map (State.laid σ) := by
  show (h.dims.move (σ.cell i) (σ.velocity s.velocity)).map _ = _
  rw [σ.move inside steers, advance, grid]
  cases g.dims.move i s.velocity with
  | error fault => rfl
  | ok cell => rfl

theorem scan_lt_area {v : Int8} {fuel i last : Nat} (inside : i < g.dims.area)
    (scanned : scan g v fuel i = .ok last) : last < g.dims.area := by
  induction fuel generalizing i with
  | zero =>
      cases scanned
      exact inside
  | succ fuel ih =>
      have cells := Nat.zero_lt_of_lt inside
      have moved := Dims.target_lt_area g.dims i v cells
      rw [scan, Dims.move_of_area_pos _ _ _ cells] at scanned
      dsimp only at scanned
      split at scanned
      · cases scanned
        exact moved
      · exact ih moved scanned

theorem executeAt_laid (mirrored : Mirrored σ) (grid : s.grid = g)
    (steers : s.velocity ∈ Direction.velocities) {i : Nat} (inside : i < g.dims.area) :
    executeAt (s.laid σ) (σ.cell i) = (executeAt s i).map (State.laid σ) := by
  have read : opAt (s.laid σ).grid (σ.cell i) = opAt s.grid i := by
    rw [grid]
    exact opAt_cell σ inside
  unfold executeAt
  rw [read]
  split
  · have velocity : mirrorSum (s.laid σ).velocity - (s.laid σ).velocity =
        σ.velocity (mirrorSum s.velocity - s.velocity) := (mirrored.falling _ steers).symm
    rw [velocity, laid_turned]
    exact advance_laid σ (s := { s with velocity := mirrorSum s.velocity - s.velocity }) grid
      (falling_mem_velocities _ steers) inside
  · have velocity : (s.laid σ).velocity - mirrorSum (s.laid σ).velocity =
        σ.velocity (s.velocity - mirrorSum s.velocity) := (mirrored.rising _ steers).symm
    rw [velocity, laid_turned]
    exact advance_laid σ (s := { s with velocity := s.velocity - mirrorSum s.velocity }) grid
      (rising_mem_velocities _ steers) inside
  · exact advance_laid σ (s := { s with tape := s.tape.left }) grid steers inside
  · exact advance_laid σ (s := { s with tape := s.tape.right 0 }) grid steers inside
  · show (s.tape.update _ >>= _) = _
    cases s.tape.update (· ^^^ 1) with
    | error fault => rfl
    | ok tape => exact advance_laid σ (s := { s with tape }) grid steers inside
  · rw [skipTo_laid σ grid steers inside]
    show (s.tape.read >>= _) = (s.tape.read >>= _).map _
    cases s.tape.read with
    | error fault => rfl
    | ok bit =>
        show (if bit = 0 then (skipTo s i).map σ.cell >>= advance (s.laid σ)
          else advance (s.laid σ) (σ.cell i)) =
          (if bit = 0 then skipTo s i >>= advance s else advance s i).map _
        split
        · cases skipped : skipTo s i with
          | error fault => rfl
          | ok reached =>
              -- The move after a skip starts where the skip ended.
              have onGrid : reached < g.dims.area := by
                rw [skipTo, grid] at skipped
                exact scan_lt_area inside skipped
              exact advance_laid σ grid steers onGrid
        · exact advance_laid σ grid steers inside
  · exact advance_laid σ grid steers inside
  · exact advance_laid σ grid steers inside

theorem execute_laid (mirrored : Mirrored σ) (grid : s.grid = g) (inRange : s.InRange) :
    execute (s.laid σ) = (execute s).map (State.laid σ) := by
  have ended : (s.laid σ).ended = s.ended := rfl
  have position : (s.laid σ).position = s.position.map σ.cell := rfl
  rw [execute, execute, ended, position]
  split
  · rfl
  · cases here : s.position with
    | none => rfl
    | some i =>
        have inside : i < g.dims.area := grid ▸ inRange.position i here
        exact executeAt_laid σ mirrored grid inRange.velocity inside

theorem after_laid (mirrored : Mirrored σ) (grid : s.grid = g) (inRange : s.InRange) (n : Nat) :
    (s.laid σ).after n = (s.after n).laid σ := by
  induction n with
  | zero => rfl
  | succ n ih =>
      obtain ⟨reached, same⟩ := inRange.after n
      rw [after_succ, after_succ, ih]
      exact back.step_map (f := State.laid σ) (execute_laid σ mirrored (same.trans grid) reached)

end Symmetry

/-- The state on the shifted grid, at the shifted position. -/
def State.shifted (s : State) (down right : Int) : State :=
  { s with
    position := s.position.map (s.grid.dims.shift down right)
    grid := s.grid.shifted down right }

/-- The state on the transposed grid, at the transposed position, with the velocity
exchanged. -/
def State.transposed (s : State) : State :=
  { s with
    position := s.position.map s.grid.dims.transpose
    velocity := Direction.exchange s.velocity
    grid := s.grid.transposed }

theorem mirrored_shift (g : Grid) (down right : Int) : Mirrored (.shift g down right) where
  falling _ _ := rfl
  rising _ _ := rfl

theorem exchange_falling : ∀ v ∈ Direction.velocities, Direction.exchange (mirrorSum v - v) =
    mirrorSum (Direction.exchange v) - Direction.exchange v := by decide +kernel

theorem exchange_rising : ∀ v ∈ Direction.velocities, Direction.exchange (v - mirrorSum v) =
    Direction.exchange v - mirrorSum (Direction.exchange v) := by decide +kernel

theorem mirrored_transpose (g : Grid) : Mirrored (.transpose g) :=
  ⟨exchange_falling, exchange_rising⟩

variable {s : State}

theorem after_shifted (inRange : s.InRange) (down right : Int) (n : Nat) :
    (s.shifted down right).after n = (s.after n).shifted down right := by
  have corresponds := after_laid (.shift s.grid down right) (mirrored_shift s.grid down right)
    rfl inRange n
  rw [State.shifted.eq_def (s.after n), (inRange.after n).2]
  exact corresponds

theorem after_transposed (inRange : s.InRange) (n : Nat) :
    s.transposed.after n = (s.after n).transposed := by
  have corresponds := after_laid (.transpose s.grid) (mirrored_transpose s.grid) rfl inRange n
  rw [State.transposed.eq_def (s.after n), (inRange.after n).2]
  exact corresponds

end Back

namespace Wii2d

/-! ## WII2D -/

section Symmetry

variable {g h : Grid} (σ : Grid.Symmetry g h)

/-- The state that corresponds to a state under a symmetry that keeps velocities. -/
def State.laid (s : State) : State := { s with position := s.position.map σ.cell, grid := h }

theorem laid_turned (s : State) (velocity : Int8) (rng : UInt64) :
    { s.laid σ with velocity, rng } = ({ s with velocity, rng } : State).laid σ := rfl

theorem rng_laid (s : State) : (s.laid σ).rng = s.rng := rfl

theorem perform_laid (op : Op) (s : State) : perform op (s.laid σ) = (perform op s).laid σ := by
  cases op with
  | turnRandom =>
      -- Rewriting alone: the kernel must not evaluate the random turn.
      rw [perform, perform, rng_laid, laid_turned]
  | turn _ | turnBack | digit _ | raise | lower | double | square | halve | print =>
      rw [perform, perform]
      rfl
  | warp | halt => rw [perform, perform]

/-- Every direction is kept by a symmetry. -/
def Straight : Prop := ∀ v ∈ Direction.velocities, σ.velocity v = v

variable {σ}

theorem Straight.move (straight : Straight σ) {i : Nat} (inside : i < g.dims.area) {v : Int8}
    (steers : v ∈ Direction.velocities) :
    h.dims.move (σ.cell i) v = (g.dims.move i v).map σ.cell := by
  rw [← σ.move inside steers, straight v steers]

theorem advance_laid (straight : Straight σ) {s : State} (grid : s.grid = g)
    (steers : s.velocity ∈ Direction.velocities) {i : Nat} (inside : i < g.dims.area) :
    advance (s.laid σ) (σ.cell i) = (advance s i).map (State.laid σ) := by
  show (h.dims.move (σ.cell i) s.velocity).map _ = _
  rw [straight.move inside steers, advance, grid]
  cases g.dims.move i s.velocity with
  | error fault => rfl
  | ok cell => rfl

theorem opAt_cell {i : Nat} (inside : i < g.dims.area) : opAt h (σ.cell i) = opAt g i := by
  rw [opAt, opAt, σ.get?_cell i inside]

/-! ### Where there is nothing to choose -/

/-- Of two warps other than a third, both are the same if there are two at most. -/
theorem eq_of_count_le_two {p t u : Nat} (few : g.cells.count '@' ≤ 2)
    (here : g.get? p = some '@') (first : g.get? t = some '@') (second : g.get? u = some '@')
    (notFirst : t ≠ p) (notSecond : u ≠ p) : t = u := by
  by_contra different
  have listed : [p, t, u] ⊆ g.positions '@' := by
    simp [Grid.mem_positions_iff, here, first, second]
  have distinct : [p, t, u].Nodup := by
    simp [different, notFirst.symm, notSecond.symm]
  have three : 3 ≤ (g.positions '@').length := (List.subperm_of_subset distinct listed).length_le
  rw [g.length_positions] at three
  omega

theorem warpTarget_cell (few : g.cells.count '@' ≤ 2) {p : Nat} (warp : g.get? p = some '@') :
    warpTarget h (σ.cell p) = σ.cell (warpTarget g p) := by
  have inside := g.lt_area_of_get?_eq_some p '@' warp
  have warpAlong : h.get? (σ.cell p) = some '@' := by rw [σ.get?_cell p inside, warp]
  by_cases several : ∃ q, q ≠ p ∧ g.get? q = some '@'
  · -- Distances do not correspond, so the targets are compared as the only other warp.
    have nearest := nearestOther_warpTarget warp several
    have along : NearestOther h (σ.cell p) (warpTarget h (σ.cell p)) := by
      apply nearestOther_warpTarget warpAlong
      obtain ⟨q, other, found⟩ := several
      have onGrid := g.lt_area_of_get?_eq_some q '@' found
      refine ⟨σ.cell q, fun same => other (σ.cell_inj onGrid inside same), ?_⟩
      rw [σ.get?_cell q onGrid, found]
    obtain ⟨u, found, reached⟩ := σ.get?_eq_some_iff.mp along.warp
    have different : u ≠ p := by
      rintro rfl
      exact along.other reached.symm
    rw [← reached, eq_of_count_le_two few warp found nearest.warp different nearest.other]
  · have only : ∀ q, g.get? q = some '@' → q = p := by
      intro q found
      by_contra other
      exact several ⟨q, other, found⟩
    rw [warpTarget_of_only warp only]
    apply warpTarget_of_only warpAlong
    intro q found
    obtain ⟨u, here, rfl⟩ := σ.get?_eq_some_iff.mp found
    rw [only u here]

theorem start?_eq_some_iff {i : Nat} : start? g = some i ↔ g.positions startMark = [i] := by
  unfold start?
  split
  · rename_i only single
    simp [single]
  · rename_i several
    simpa using several i

theorem start?_along (σ : Grid.Symmetry g h) : start? h = (start? g).map σ.cell := by
  have listed := σ.positions_perm startMark
  apply Option.ext
  intro i
  rw [start?_eq_some_iff, Option.map_eq_some_iff]
  simp only [start?_eq_some_iff]
  constructor
  · intro single
    rw [single] at listed
    exact List.map_eq_singleton_iff.mp (List.singleton_perm.mp listed).symm
  · rintro ⟨start, single, rfl⟩
    rw [single] at listed
    exact List.perm_singleton.mp listed

/-! ### Steps and runs -/

theorem Op.eq_warpMark_of_ofChar? {c : Char} (read : Op.ofChar? c = some .warp) :
    c = warpMark := by
  unfold Op.ofChar? at read
  iterate 13 replace read := eq_some_of_ite read nofun
  split at read
  · assumption
  · cases eq_some_of_ite read nofun

theorem get?_of_opAt_eq_warp {i : Nat} (read : opAt g i = some .warp) : g.get? i = some '@' := by
  obtain ⟨c, found, warp⟩ := Option.bind_eq_some_iff.mp read
  rw [found, Op.eq_warpMark_of_ofChar? warp]
  rfl

theorem executeAt_laid (straight : Straight σ) (few : g.cells.count '@' ≤ 2) {s : State}
    (grid : s.grid = g) (steers : s.velocity ∈ Direction.velocities) {i : Nat}
    (inside : i < g.dims.area) :
    executeAt (s.laid σ) (σ.cell i) = (executeAt s i).map (State.laid σ) := by
  have read : opAt (s.laid σ).grid (σ.cell i) = opAt s.grid i := by
    rw [grid]
    exact opAt_cell inside
  unfold executeAt
  rw [read]
  split
  · exact advance_laid straight grid steers inside
  · rename_i found
    rw [grid] at found
    have warp := get?_of_opAt_eq_warp found
    have onGrid := g.lt_area_of_get?_eq_some _ _ (get?_warpTarget warp)
    show (h.dims.move (warpTarget h (σ.cell i)) _).map _ = _
    rw [warpTarget_cell few warp, straight.move onGrid (Direction.velocity_mem .up), grid]
    cases g.dims.move (warpTarget g i) Direction.up.velocity with
    | error fault => rfl
    | ok cell => rfl
  · rfl
  · rename_i op _ _ _
    rw [perform_laid]
    exact advance_laid straight ((perform_frame op s).1.trans grid) (perform_steers op steers) inside

theorem execute_laid (straight : Straight σ) (few : g.cells.count '@' ≤ 2) {s : State}
    (grid : s.grid = g) (position : ∀ i ∈ s.position, i < g.dims.area)
    (steers : s.velocity ∈ Direction.velocities) :
    execute (s.laid σ) = (execute s).map (State.laid σ) := by
  have ended : (s.laid σ).ended = s.ended := rfl
  have along : (s.laid σ).position = s.position.map σ.cell := rfl
  rw [execute, execute, ended, along]
  split
  · rfl
  · cases here : s.position with
    | none => rfl
    | some i => exact executeAt_laid straight few grid steers (position i here)

theorem run_laid (straight : Straight σ) (few : g.cells.count '@' ≤ 2) (rng : UInt64) (n : Nat) :
    run rng (.grid h) n = (run rng (.grid g) n).laid σ := by
  induction n with
  | zero =>
      show seed rng h = (seed rng g).laid σ
      rw [seed, start?_along σ, Option.isNone_map]
      rfl
  | succ n ih =>
      have coursed := coursed_run rng (.grid g) n
      have grid : (run rng (.grid g) n).grid = g := coursed.sound.grid_eq
      have position := coursed.sound.inside
      rw [grid] at position
      rw [run_succ, run_succ, ih]
      exact (wii2d rng).step_map (f := State.laid σ)
        (execute_laid straight few grid position coursed.steers)

end Symmetry

/-- The state on the shifted grid, at the shifted position. -/
def State.shifted (s : State) (down right : Int) : State :=
  { s with
    position := s.position.map (s.grid.dims.shift down right)
    grid := s.grid.shifted down right }

theorem run_shifted {program : Program} (few : program.toGrid.cells.count '@' ≤ 2) (rng : UInt64)
    (down right : Int) (n : Nat) :
    run rng (.grid (program.toGrid.shifted down right)) n =
      (run rng program n).shifted down right := by
  have straight : Straight (.shift program.toGrid down right) := fun _ _ => rfl
  have corresponds := run_laid straight few rng n
  have grid : (run rng program n).grid = program.toGrid :=
    (coursed_run rng program n).sound.grid_eq
  rw [State.shifted, grid]
  exact corresponds

end Wii2d

/-- Runs do not notice where the torus is cut open: a run of WII2D with two warps at most,
and any run of Back from a state in range, is the same on a shifted grid from the shifted
position, and Back runs the same on the transposed grid. -/
theorem seam_makes_no_difference (program : Program) (rng : UInt64) (down right : Int) (n : Nat) :
    (program.toGrid.cells.count '@' ≤ 2 →
      Wii2d.run rng (.grid (program.toGrid.shifted down right)) n =
        (Wii2d.run rng program n).shifted down right) ∧
    ∀ s : Back.State, s.InRange →
      (∃ next, Back.execute (s.after n) = .ok next) ∧
      (s.shifted down right).after n = (s.after n).shifted down right ∧
      s.transposed.after n = (s.after n).transposed := by
  constructor
  · intro few
    exact Wii2d.run_shifted few rng down right n
  · intro s inRange
    obtain ⟨next, executed, _⟩ := (inRange.after n).1.execute
    exact ⟨⟨next, executed⟩, Back.after_shifted inRange down right n,
      Back.after_transposed inRange n⟩

theorem seam_makes_no_difference_up_and_right :
    let program := Program.grid (.ofCells ⟨2, 3⟩ ['@', '3', '!', '+', '@', '?'])
    let s : Back.State :=
      { position := some 4, velocity := 2, tape := { cells := #[0, 1] },
        grid := .ofCells ⟨2, 3⟩ ['\\', '*', ' ', '/', '+', '>'] }
    program.toGrid.cells.count '@' = 2 ∧
      Wii2d.run 7 (.grid (program.toGrid.shifted (-1) 1)) 9 =
        (Wii2d.run 7 program 9).shifted (-1) 1 ∧
      s.InRange ∧ (s.shifted (-1) 1).after 9 = (s.after 9).shifted (-1) 1 ∧
      s.transposed.after 9 = (s.after 9).transposed := by
  intro program s
  have two : program.toGrid.cells.count '@' = 2 := by decide +kernel
  have inRange : s.InRange := ⟨by decide +kernel, by decide +kernel, by decide +kernel⟩
  obtain ⟨wii2d, back⟩ := seam_makes_no_difference program 7 (-1) 1 9
  exact ⟨two, wii2d two.le, inRange, (back s inRange).2⟩

end StepLab
