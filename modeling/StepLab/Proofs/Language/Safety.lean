import StepLab.Language.Kind
import StepLab.Proofs.Language.TorusMachines

/-! # Safety of the built-in languages

Whatever is done to an engine of a built-in language, none of its states lacks a next
one: no tape cell is missing, no grid without cells is moved on, and nothing is divided
by zero.  What is drawn of the engine is well formed: the step lies in the history, the
cursor on the program, and the pointer on the tape. -/

set_option autoImplicit false

namespace StepLab

namespace Language

/-- The step from a state has a result, and what it divides by is not zero: a move and
a distance take remainders by the columns and by the cells of the grid. -/
structure Faultless (L : Language) (s : L.State) : Prop where
  executes : ∃ next, L.execute s = .ok next
  divisors : ∀ d, (L.view s).grid = some d → L.ended s = false → 0 < d.cols ∧ 0 < d.area

end Language

/-- What whoever draws a snapshot relies on, by whether programs are grids. -/
structure Snapshot.WellFormed (isGrid : Bool) (s : Snapshot) : Prop where
  step : s.step < s.historySize
  tape : s.displays.tape = true → s.state.pointer < s.state.tape.size
  text : isGrid = false → ∃ i, s.state.cursor = some i ∧ i ≤ s.state.code.length
  grid : isGrid = true → ∃ d, s.state.grid = some d ∧
    s.state.code.length = d.rows * d.cols ∧
    (∀ i, s.state.cursor = some i → i < d.rows * d.cols) ∧
    (s.state.cursor = none ↔ s.terminated = true)

theorem Snapshot.wellFormed_of_index {s : Snapshot} (step : s.step < s.historySize)
    (tape : s.state.pointer < s.state.tape.size) (i : Nat)
    (cursor : s.state.cursor = some i) (bound : i ≤ s.state.code.length) :
    s.WellFormed false where
  step := step
  tape _ := tape
  text _ := ⟨i, cursor, bound⟩
  grid isGrid := by contradiction

theorem Snapshot.wellFormed_of_placed {s : Snapshot} (step : s.step < s.historySize)
    (tape : s.displays.tape = true → s.state.pointer < s.state.tape.size)
    (program : Program) (g : Grid) (dims : s.state.grid = some g.dims)
    (code : s.state.code = g.cells.toList)
    (placed : Placed program g s.state.cursor s.terminated) :
    s.WellFormed true where
  step := step
  tape := tape
  text isText := by contradiction
  grid _ := by
    have cells : s.state.code.length = g.dims.rows * g.dims.cols := by
      rw [code, Array.length_toList, g.size_cells, Dims.area]
    exact ⟨g.dims, dims, cells, placed.inside, placed.ended_iff⟩

theorem Placed.divisors_pos {program : Program} {grid : Grid} {position : Option Nat}
    {ended : Bool} (placed : Placed program grid position ended) (going : ended = false) :
    0 < grid.dims.cols ∧ 0 < grid.dims.area := by
  have cells := placed.area_pos going
  exact ⟨Nat.pos_of_mul_pos_left cells, cells⟩

namespace Kind

/-- What is true of every state of a program of a kind. -/
def Sound (o : Options) : (k : Kind) → Program → (k.language o).State → Prop
  | stunStep => StunStep.Sound
  | suffolk => Suffolk.Sound
  | wii2d => Wii2d.Sound
  | back => Back.Sound

theorem invariant (o : Options) (k : Kind) : (k.language o).Invariant (k.Sound o) := by
  cases k with
  | stunStep => exact StunStep.invariant
  | suffolk => exact Suffolk.invariant o.input
  | wii2d => exact Wii2d.invariant o.seed
  | back => exact Back.invariant

theorem faultless_of_sound (o : Options) (k : Kind) (program : Program)
    (s : (k.language o).State) (sound : k.Sound o program s) :
    (k.language o).Faultless s := by
  obtain ⟨next, executed, _⟩ := (k.invariant o).execute program s sound
  refine ⟨⟨next, executed⟩, ?_⟩
  intro d dims going
  cases k with
  | stunStep => cases dims
  | suffolk => cases dims
  | wii2d =>
      cases dims
      exact Placed.divisors_pos sound going
  | back =>
      cases dims
      exact sound.placed.divisors_pos going

theorem wellFormed_of_sound (o : Options) (k : Kind) (program : Program)
    (e : Engine (k.language o)) (sound : k.Sound o program e.state) :
    e.snapshot.WellFormed k.isGrid := by
  have step : e.snapshot.step < e.snapshot.historySize := e.history.cursor_lt
  cases k with
  | stunStep =>
      refine Snapshot.wellFormed_of_index step sound.inside _ rfl ?_
      exact sound.index_le.trans_eq (StunStep.length_writeCode _).symm
  | suffolk =>
      refine Snapshot.wellFormed_of_index step sound.inside _ rfl ?_
      exact sound.index_le.trans_eq (Suffolk.length_writeCode _).symm
  | wii2d => exact Snapshot.wellFormed_of_placed step nofun program _ rfl rfl sound
  | back =>
      exact Snapshot.wellFormed_of_placed step (fun _ => sound.tape) program _ rfl rfl
        sound.placed

end Kind

/-- After any script, no state in the history of an engine of a built-in language
faults when it is stepped, and the snapshot of the engine is well formed. -/
theorem Engine.play_faultless_and_wellFormed (o : Options) (k : Kind) (program : Program)
    (script : Script) :
    let e := (create (k.language o) program o.pace).value.play script
    (∀ s ∈ e.history.states, (k.language o).Faultless s) ∧
      e.snapshot.WellFormed k.isGrid := by
  intro e
  have sound : e.Sound := (sound_fresh program o.pace).play script
  constructor
  · intro s member
    exact k.faultless_of_sound o e.program s ((k.invariant o).of_mem_history sound member)
  · exact k.wellFormed_of_sound o e.program e ((k.invariant o).state sound)

end StepLab
