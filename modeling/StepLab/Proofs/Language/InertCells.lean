import StepLab.Proofs.Grid.Marks
import StepLab.Proofs.Language.TorusRuns

/-! # Cells that do nothing

A machine on a torus reads a character only to find out which of its marks it is.  So two
grids with the same marks lead through the same run: one step on the one grid is the same
step on the other, and nothing but the grid itself tells the states apart.  What reads
cells is the instruction under the machine, the search for the start, the search for the
warps, and the way that a skip takes. -/

set_option autoImplicit false

namespace StepLab

theorem Text.mem_digits_of_isDigit {c : Char} (digit : Text.isDigit c = true) :
    c ∈ ['0', '1', '2', '3', '4', '5', '6', '7', '8', '9'] := by
  simp only [Text.isDigit, Bool.and_eq_true, decide_eq_true_eq, Char.le_def,
    UInt32.le_iff_toNat_le] at digit
  have low : 48 ≤ c.toNat := digit.1
  have high : c.toNat ≤ 57 := digit.2
  have listed : ∀ n ≤ 57, 48 ≤ n →
      Char.ofNat n ∈ ['0', '1', '2', '3', '4', '5', '6', '7', '8', '9'] := by decide
  have found := listed c.toNat high low
  rwa [Char.ofNat_toNat] at found

namespace Wii2d

/-! ## WII2D -/

/-- The characters that WII2D tells apart. -/
def marks : List Char :=
  ['^', '<', '>', 'v', '|', '0', '1', '2', '3', '4', '5', '6', '7', '8', '9',
    '+', '-', '*', 's', '/', '~', '?', '@', '.', '!']

theorem Op.ofChar?_eq_none {c : Char} (other : c ∉ marks) : Op.ofChar? c = none := by
  have noDigit : Text.isDigit c = false := by
    by_contra digit
    have listed := Text.mem_digits_of_isDigit (Bool.not_eq_false _ ▸ digit)
    simp only [marks, List.mem_cons, List.not_mem_nil, or_false, not_or] at other listed
    grind
  simp only [marks, List.mem_cons, List.not_mem_nil, or_false, not_or] at other
  simp [Op.ofChar?, noDigit, warpMark, other]

variable {g h : Grid}

theorem opAt_eq_of_sameMarks (same : Grid.SameMarks marks g h) (position : Nat) :
    opAt g position = opAt h position :=
  same.bind_get?_eq (fun _ => Op.ofChar?_eq_none) position

theorem start?_eq_of_sameMarks (same : Grid.SameMarks marks g h) : start? g = start? h := by
  have starts := same.positions_eq (c := startMark) (by decide)
  rw [start?, start?, starts]

theorem warpTarget_eq_of_sameMarks (same : Grid.SameMarks marks g h) (position : Nat) :
    warpTarget g position = warpTarget h position := by
  have warps := same.positions_eq (c := warpMark) (by decide)
  rw [warpTarget, warpTarget, warps, same.dims]

/-- The same state on another grid. -/
def State.on (s : State) (g : Grid) : State := { s with grid := g }

theorem on_turned (s : State) (g : Grid) (velocity : Int8) (rng : UInt64) :
    { s.on g with velocity, rng } = ({ s with velocity, rng } : State).on g := rfl

theorem rng_on (s : State) (g : Grid) : (s.on g).rng = s.rng := rfl

theorem perform_on (op : Op) (s : State) (g : Grid) :
    perform op (s.on g) = (perform op s).on g := by
  cases op with
  | turnRandom =>
      -- Rewriting alone: the kernel must not evaluate the random turn.
      rw [perform, perform, rng_on, on_turned]
  | turn _ | turnBack | digit _ | raise | lower | double | square | halve | print =>
      rw [perform, perform]
      rfl
  | warp | halt => rw [perform, perform]

theorem advance_on {s : State} (dims : s.grid.dims = g.dims) (position : Nat) :
    advance (s.on g) position = (advance s position).map (State.on · g) := by
  unfold advance
  show (g.dims.move position s.velocity).map _ = _
  rw [← dims]
  cases s.grid.dims.move position s.velocity with
  | error fault => rfl
  | ok cell => rfl

theorem executeAt_on {s : State} (same : Grid.SameMarks marks s.grid g) (position : Nat) :
    executeAt (s.on g) position = (executeAt s position).map (State.on · g) := by
  have read : opAt (s.on g).grid position = opAt s.grid position :=
    (opAt_eq_of_sameMarks same position).symm
  unfold executeAt
  rw [read]
  split
  · exact advance_on same.dims position
  · show (g.dims.move (warpTarget g position) _).map _ = _
    rw [← warpTarget_eq_of_sameMarks same, ← same.dims]
    cases s.grid.dims.move (warpTarget s.grid position) Direction.up.velocity with
    | error fault => rfl
    | ok cell => rfl
  · rfl
  · rename_i op _ _ _
    have dims : (perform op s).grid.dims = g.dims := by rw [(perform_frame op s).1, same.dims]
    rw [perform_on]
    exact advance_on dims position

theorem execute_on {s : State} (same : Grid.SameMarks marks s.grid g) :
    execute (s.on g) = (execute s).map (State.on · g) := by
  have ended : (s.on g).ended = s.ended := rfl
  have position : (s.on g).position = s.position := rfl
  rw [execute, execute, ended, position]
  split
  · rfl
  · cases s.position with
    | none => rfl
    | some position => exact executeAt_on same position

theorem seed_on (rng : UInt64) (same : Grid.SameMarks marks g h) :
    seed rng h = (seed rng g).on h := by
  rw [seed, seed, start?_eq_of_sameMarks same]
  rfl

theorem run_on (rng : UInt64) {p q : Program}
    (same : Grid.SameMarks marks p.toGrid q.toGrid) (n : Nat) :
    run rng q n = (run rng p n).on q.toGrid := by
  induction n with
  | zero => exact seed_on rng same
  | succ n ih =>
      have here : (run rng p n).grid = p.toGrid := (coursed_run rng p n).sound.grid_eq
      rw [run_succ, run_succ, ih]
      exact (wii2d rng).step_map (f := (State.on · q.toGrid)) (execute_on (here ▸ same))

end Wii2d

namespace Back

/-! ## Back -/

/-- The characters that Back tells apart. -/
def directives : List Char := ['\\', '/', '<', '>', '-', '+', '*']

theorem Op.isSome_ofChar?_iff (c : Char) : (Op.ofChar? c).isSome ↔ c ∈ directives := by
  simp only [directives, List.mem_cons, List.not_mem_nil, or_false]
  unfold Op.ofChar?
  grind

theorem isSome_opAt_iff (g : Grid) (position : Nat) :
    (opAt g position).isSome ↔ ∃ c ∈ directives, g.get? position = some c := by
  unfold opAt
  cases g.get? position with
  | none => simp
  | some c => simpa using Op.isSome_ofChar?_iff c

theorem Op.ofChar?_eq_none {c : Char} (other : c ∉ directives) : Op.ofChar? c = none := by
  rwa [← Op.isSome_ofChar?_iff, Option.not_isSome_iff_eq_none] at other

variable {g h : Grid}

theorem opAt_eq_of_sameMarks (same : Grid.SameMarks directives g h) (position : Nat) :
    opAt g position = opAt h position :=
  same.bind_get?_eq (fun _ => Op.ofChar?_eq_none) position

theorem scan_eq_of_sameMarks (same : Grid.SameMarks directives g h) (velocity : Int8)
    (fuel position : Nat) : scan g velocity fuel position = scan h velocity fuel position := by
  induction fuel generalizing position with
  | zero => rfl
  | succ fuel ih =>
      rw [scan, scan, same.dims]
      cases h.dims.move position velocity with
      | error fault => rfl
      | ok cell =>
          show (if (opAt g cell).isSome then _ else _) = _
          rw [opAt_eq_of_sameMarks same, ih]

/-- The same state on another grid. -/
def State.on (s : State) (g : Grid) : State := { s with grid := g }

theorem advance_on {s : State} (dims : s.grid.dims = g.dims) (position : Nat) :
    advance (s.on g) position = (advance s position).map (State.on · g) := by
  unfold advance
  show (g.dims.move position s.velocity).map _ = _
  rw [← dims]
  cases s.grid.dims.move position s.velocity with
  | error fault => rfl
  | ok cell => rfl

theorem skipTo_on {s : State} (same : Grid.SameMarks directives s.grid g) (position : Nat) :
    skipTo (s.on g) position = skipTo s position := by
  show scan g s.velocity g.dims.area position = scan s.grid s.velocity s.grid.dims.area position
  rw [scan_eq_of_sameMarks same, same.dims]

theorem executeAt_on {s : State} (same : Grid.SameMarks directives s.grid g) (position : Nat) :
    executeAt (s.on g) position = (executeAt s position).map (State.on · g) := by
  have read : opAt (s.on g).grid position = opAt s.grid position :=
    (opAt_eq_of_sameMarks same position).symm
  unfold executeAt
  rw [read]
  split
  · exact advance_on (s := { s with velocity := mirrorSum s.velocity - s.velocity })
      same.dims position
  · exact advance_on (s := { s with velocity := s.velocity - mirrorSum s.velocity })
      same.dims position
  · exact advance_on (s := { s with tape := s.tape.left }) same.dims position
  · exact advance_on (s := { s with tape := s.tape.right 0 }) same.dims position
  · show (s.tape.update _ >>= _) = _
    cases s.tape.update (· ^^^ 1) with
    | error fault => rfl
    | ok tape => exact advance_on (s := { s with tape }) same.dims position
  · rw [skipTo_on same]
    show (s.tape.read >>= _) = (s.tape.read >>= _).map _
    cases s.tape.read with
    | error fault => rfl
    | ok bit =>
        show (if bit = 0 then skipTo s position >>= advance (s.on g)
          else advance (s.on g) position) =
          (if bit = 0 then skipTo s position >>= advance s else advance s position).map _
        split
        · cases skipTo s position with
          | error fault => rfl
          | ok reached => exact advance_on same.dims reached
        · exact advance_on same.dims position
  · exact advance_on same.dims position
  · exact advance_on same.dims position

theorem execute_on {s : State} (same : Grid.SameMarks directives s.grid g) :
    execute (s.on g) = (execute s).map (State.on · g) := by
  have ended : (s.on g).ended = s.ended := rfl
  have position : (s.on g).position = s.position := rfl
  rw [execute, execute, ended, position]
  split
  · rfl
  · cases s.position with
    | none => rfl
    | some position => exact executeAt_on same position

theorem seed_on (same : Grid.SameMarks directives g h) : seed h = (seed g).on h := by
  rw [seed, seed, same.dims]
  rfl

theorem run_succ (program : Program) (n : Nat) :
    run program (n + 1) = back.step (run program n) :=
  Function.iterate_succ_apply' _ _ _

theorem run_on {p q : Program} (same : Grid.SameMarks directives p.toGrid q.toGrid) (n : Nat) :
    run q n = (run p n).on q.toGrid := by
  induction n with
  | zero => exact seed_on same
  | succ n ih =>
      have here : (run p n).grid = p.toGrid := (coursed_run p n).sound.placed.grid_eq
      rw [run_succ, run_succ, ih]
      exact back.step_map (f := (State.on · q.toGrid)) (execute_on (here ▸ same))

end Back

/-- Runs on grids with the same marks agree after every number of steps in every part of
their states but the grid. -/
theorem runs_agree_on_same_marks (p q : Program) (rng : UInt64) (n : Nat) :
    (Grid.SameMarks Wii2d.marks p.toGrid q.toGrid →
      Wii2d.run rng q n = { Wii2d.run rng p n with grid := q.toGrid }) ∧
    (Grid.SameMarks Back.directives p.toGrid q.toGrid →
      Back.run q n = { Back.run p n with grid := q.toGrid }) := by
  constructor
  · intro same
    exact Wii2d.run_on rng same n
  · intro same
    exact Back.run_on same n

/-- Letters between a start, a warp, a random turn and a skip. -/
theorem runs_agree_on_same_marks_between_letters :
    let p := Program.grid (Grid.ofCells ⟨2, 4⟩ ['+', 'a', 'b', '-', '!', '?', '@', 'c'])
    let q := Program.grid (Grid.ofCells ⟨2, 4⟩ ['+', ' ', 'A', '-', '!', '?', '@', '#'])
    Grid.SameMarks Wii2d.marks p.toGrid q.toGrid ∧
      Grid.SameMarks Back.directives p.toGrid q.toGrid ∧
      Wii2d.run 7 q 9 = { Wii2d.run 7 p 9 with grid := q.toGrid } ∧
      Back.run q 9 = { Back.run p 9 with grid := q.toGrid } := by
  intro p q
  have torus : Grid.SameMarks Wii2d.marks p.toGrid q.toGrid := ⟨rfl, by decide +kernel⟩
  have bits : Grid.SameMarks Back.directives p.toGrid q.toGrid := ⟨rfl, by decide +kernel⟩
  obtain ⟨agree, agreeBack⟩ := runs_agree_on_same_marks p q 7 9
  exact ⟨torus, bits, agree torus, agreeBack bits⟩

end StepLab
