import StepLab.Grid.Editor

/-! # Honest editing

An operation of the grid editor is honest when its answer says what it changed: an
ignored operation changed nothing, one that answers a selection left the grid alone,
and one that answers a grid holds that grid.  Honest operations also keep the selected
cell inside the grid.  Whoever keeps a second copy of the grid can therefore rely on
the answers alone.  A run of operations from a grid without a selection keeps the selected
cell inside whatever grid it reaches, so an arrow key always has somewhere to go. -/

set_option autoImplicit false

namespace StepLab.GridEditor

/-- A selected cell lies in the grid. -/
def Inside (ed : GridEditor) : Prop :=
  ∀ i ∈ ed.selection, i < ed.grid.dims.area

/-- What an answer says about the editor before and after. -/
def Reports (before after : GridEditor) : EditOutcome → Prop
  | .ignored => after = before
  | .selection cell => after.grid = before.grid ∧ after.selection = cell
  | .changed g => after.grid = g

/-- An answer that reports what was done and leaves the selection inside. -/
structure Honest (before : GridEditor) (answer : GridEditor × EditOutcome) : Prop where
  reports : Reports before answer.1 answer.2
  inside : before.Inside → answer.1.Inside

theorem honest_ignored (ed : GridEditor) : Honest ed (ed, .ignored) :=
  ⟨rfl, id⟩

theorem honest_choose (ed : GridEditor) (cell : Option Nat)
    (inside : ∀ i ∈ cell, i < ed.grid.dims.area) : Honest ed (ed.choose cell) :=
  ⟨⟨rfl, rfl⟩, fun _ => inside⟩

theorem honest_click (ed : GridEditor) (i : Nat) : Honest ed (ed.click i) := by
  by_cases outside : ed.grid.dims.area ≤ i
  · rw [click, if_pos outside]
    exact honest_ignored ed
  · rw [click, if_neg outside]
    apply honest_choose
    intro j chosen
    split at chosen
    · simp at chosen
    · cases chosen
      exact Nat.lt_of_not_le outside

theorem honest_select (ed : GridEditor) (i : Nat) : Honest ed (ed.select i) := by
  by_cases outside : ed.grid.dims.area ≤ i
  · rw [select, if_pos outside]
    exact honest_ignored ed
  · rw [select, if_neg outside]
    apply honest_choose
    intro j chosen
    cases chosen
    exact Nat.lt_of_not_le outside

theorem grid_click (ed : GridEditor) (i : Nat) : (ed.click i).1.grid = ed.grid := by
  unfold click
  split
  · rfl
  · rfl

theorem grid_select (ed : GridEditor) (i : Nat) : (ed.select i).1.grid = ed.grid := by
  unfold select
  split
  · rfl
  · rfl

theorem honest_deselect (ed : GridEditor) : Honest ed ed.deselect := by
  apply honest_choose
  intro j chosen
  cases chosen

theorem honest_write (ed : GridEditor) (i : Nat) (c : Char) : Honest ed (ed.write i c) := by
  by_cases same : ed.grid.get? i = some c
  · rw [write, if_pos same]
    exact honest_ignored ed
  · rw [write, if_neg same]
    exact ⟨rfl, fun inside => inside⟩

/-- A move that has a target starts on a grid with cells, so the target is one of
them, whatever cell was selected. -/
theorem honest_moveFrom (ed : GridEditor) (i : Nat) (direction : Direction) :
    Honest ed (ed.moveFrom i direction) := by
  by_cases bare : ed.grid.dims.area = 0
  · have stuck : ed.moveFrom i direction = (ed, .ignored) := by
      simp [moveFrom, Dims.move, bare]
    rw [stuck]
    exact honest_ignored ed
  · have cells : 0 < ed.grid.dims.area := Nat.pos_of_ne_zero bare
    have moved : ed.moveFrom i direction =
        ed.choose (some (ed.grid.dims.target i direction.velocity)) := by
      simp [moveFrom, Dims.move_of_area_pos _ i direction.velocity cells]
    rw [moved]
    apply honest_choose
    intro j chosen
    cases chosen
    exact Dims.target_lt_area _ i direction.velocity cells

theorem honest_keyAt (ed : GridEditor) (i : Nat) (k : EditKey) : Honest ed (ed.keyAt i k) := by
  cases k with
  | arrow direction => exact honest_moveFrom ed i direction
  | char c =>
      cases control : Text.isControl c with
      | true => simpa [keyAt, control] using honest_ignored ed
      | false => simpa [keyAt, control] using honest_write ed i c
  | erase => exact honest_write ed i Grid.blankCell
  | escape => exact honest_deselect ed

theorem honest_key (ed : GridEditor) (k : EditKey) : Honest ed (ed.key k) := by
  cases chosen : ed.selection with
  | none => simpa [key, chosen] using honest_ignored ed
  | some i => simpa [key, chosen] using honest_keyAt ed i k

theorem honest_resize (ed : GridEditor) (d : Dims) : Honest ed (ed.resize d).value := by
  by_cases same : d = ed.grid.dims
  · rw [resize, if_pos same]
    exact honest_ignored ed
  · rw [resize, if_neg same]
    refine ⟨rfl, ?_⟩
    intro _ i chosen
    have kept := (Option.mem_filter_iff.mp chosen).2
    exact of_decide_eq_true kept

theorem honest_load (ed : GridEditor) (g : Grid) : Honest ed (ed.load g) := by
  refine ⟨rfl, ?_⟩
  intro _ i chosen
  cases chosen

/-! ## Runs of operations -/

/-- The operations of the editor. -/
inductive Operation where
  | click (i : Nat)
  | select (i : Nat)
  | deselect
  | key (k : EditKey)
  | resize (d : Dims)
  | load (g : Grid)
  deriving DecidableEq

def perform (ed : GridEditor) : Operation → GridEditor × EditOutcome
  | .click i => ed.click i
  | .select i => ed.select i
  | .deselect => ed.deselect
  | .key k => ed.key k
  | .resize d => (ed.resize d).value
  | .load g => ed.load g

/-- The editor after some operations, one after the other. -/
def edit (ed : GridEditor) : List Operation → GridEditor
  | [] => ed
  | op :: rest => (ed.perform op).1.edit rest

theorem honest_perform (ed : GridEditor) (op : Operation) : Honest ed (ed.perform op) := by
  cases op with
  | click i => exact honest_click ed i
  | select i => exact honest_select ed i
  | deselect => exact honest_deselect ed
  | key k => exact honest_key ed k
  | resize d => exact honest_resize ed d
  | load g => exact honest_load ed g

theorem Inside.edit {ed : GridEditor} (inside : ed.Inside) (ops : List Operation) :
    (ed.edit ops).Inside := by
  induction ops generalizing ed with
  | nil => exact inside
  | cons op rest ih => exact ih ((honest_perform ed op).inside inside)

/-- An arrow key moves a selection that lies in the grid. -/
theorem Inside.key_arrow {ed : GridEditor} (inside : ed.Inside) {i : Nat}
    (chosen : ed.selection = some i) (direction : Direction) :
    ∃ cell, ed.grid.dims.move i direction.velocity = .ok cell ∧
      ed.key (.arrow direction) = ({ ed with selection := some cell }, .selection (some cell)) := by
  have cells : 0 < ed.grid.dims.area := Nat.zero_lt_of_lt (inside i chosen)
  have moved := Dims.move_of_area_pos _ i direction.velocity cells
  refine ⟨_, moved, ?_⟩
  simp only [key, chosen, keyAt, moveFrom, moved]
  rfl

/-- A grid that differs has been answered. -/
theorem Reports.changed_of_grid_ne {before after : GridEditor} {outcome : EditOutcome}
    (reports : Reports before after outcome) (differs : after.grid ≠ before.grid) :
    outcome = .changed after.grid := by
  cases outcome with
  | ignored =>
      have unchanged : after = before := reports
      exact absurd (congrArg GridEditor.grid unchanged) differs
  | selection cell => exact absurd reports.1 differs
  | changed g =>
      have installed : after.grid = g := reports
      rw [installed]

/-- After any operations on an editor that opens with a grid, the grid has as many cells as
its dimensions say and a selected cell is one of them, so that an arrow key finds its
target.  The answer of any further operation says what it changed, and a changed grid is
always answered. -/
theorem edit_stays_inside_and_honest (g : Grid) (ops : List Operation) :
    let ed := ({ grid := g } : GridEditor).edit ops
    ed.grid.cells.size = ed.grid.dims.rows * ed.grid.dims.cols ∧
    (∀ i, ed.selection = some i → i < ed.grid.dims.rows * ed.grid.dims.cols) ∧
    (∀ i, ed.selection = some i → ∀ direction : Direction, ∃ cell,
      ed.grid.dims.move i direction.velocity = .ok cell ∧
      ed.key (.arrow direction) = ({ ed with selection := some cell }, .selection (some cell))) ∧
    ∀ op,
      let after := (ed.perform op).1
      let outcome := (ed.perform op).2
      (outcome = .ignored → after = ed) ∧
      (∀ cell, outcome = .selection cell → after.grid = ed.grid ∧ after.selection = cell) ∧
      (∀ h, outcome = .changed h → after.grid = h) ∧
      (after.grid ≠ ed.grid → ∃ h, outcome = .changed h) := by
  intro ed
  have start : Inside { grid := g } := nofun
  have inside : ed.Inside := start.edit ops
  refine ⟨ed.grid.size_cells, inside, fun i chosen => inside.key_arrow chosen, ?_⟩
  intro op after outcome
  have reports : Reports ed after outcome := (honest_perform ed op).reports
  refine ⟨?_, ?_, ?_, fun differs => ⟨_, reports.changed_of_grid_ne differs⟩⟩
  · intro answer
    rwa [answer] at reports
  · intro cell answer
    rwa [answer] at reports
  · intro h answer
    rwa [answer] at reports

/-- A cell that is selected in a square stays selected in a row of as many cells, moves
around its end, and is dropped with the columns of a smaller grid. -/
theorem edit_stays_inside_and_honest_over_resizes :
    let square := Grid.ofCells ⟨2, 2⟩ ['a', 'b', 'c', 'd']
    let ed := ({ grid := square } : GridEditor).edit [.click 3, .resize ⟨1, 4⟩]
    let answer := ed.perform (.resize ⟨1, 1⟩)
    ed.selection = some 3 ∧ ed.grid = Grid.ofCells ⟨1, 4⟩ ['a', 'b'] ∧
      (∃ cell, ed.grid.dims.move 3 Direction.right.velocity = .ok cell ∧
        ed.key (.arrow .right) = ({ ed with selection := some cell }, .selection (some cell))) ∧
      answer.1.grid ≠ ed.grid ∧ (∃ h, answer.2 = .changed h) ∧ answer.1.selection = none := by
  have kept := edit_stays_inside_and_honest (Grid.ofCells ⟨2, 2⟩ ['a', 'b', 'c', 'd'])
    [.click 3, .resize ⟨1, 4⟩]
  have selected : (({ grid := Grid.ofCells ⟨2, 2⟩ ['a', 'b', 'c', 'd'] } : GridEditor).edit
      [.click 3, .resize ⟨1, 4⟩]).selection = some 3 := by decide +kernel
  refine ⟨selected, by decide +kernel, kept.2.2.1 3 selected .right, by decide +kernel, ?_,
    by decide +kernel⟩
  exact (kept.2.2.2 (.resize ⟨1, 1⟩)).2.2.2 (by decide +kernel)

end StepLab.GridEditor
