import Mathlib.Algebra.Ring.Int.Defs
import Mathlib.Logic.Function.Iterate
import Mathlib.Tactic.SplitIfs
import StepLab.Grid.Torus
import StepLab.Proofs.Grid.Rows

/-! # The geometry of the torus

A cell of a grid has a row and a column.  A move changes them by the shift of its
direction, the row around the number of rows and the column around the number of columns,
whatever formula the move uses on the number of the cell.  Moves one after the other add up
their shifts, so a move and its opposite cancel out, the order of moves makes no difference,
and as many horizontal moves as there are columns, or vertical ones as there are rows, lead
back to where they began. -/

set_option autoImplicit false

namespace StepLab

namespace Direction

/-- How many rows further down a move leads. -/
def rowShift : Direction → Int
  | up => -1
  | left => 0
  | right => 0
  | down => 1

/-- How many columns further right a move leads. -/
def colShift : Direction → Int
  | up => 0
  | left => -1
  | right => 1
  | down => 0

def opposite : Direction → Direction
  | up => down
  | left => right
  | right => left
  | down => up

theorem neg_velocity (direction : Direction) :
    -direction.velocity = direction.opposite.velocity := by
  cases direction <;> rfl

theorem rowShift_opposite (direction : Direction) :
    direction.opposite.rowShift = -direction.rowShift := by
  cases direction <;> rfl

theorem colShift_opposite (direction : Direction) :
    direction.opposite.colShift = -direction.colShift := by
  cases direction <;> rfl

theorem eq_velocity_of_ofVelocity? {v : Int8} {direction : Direction}
    (leads : ofVelocity? v = some direction) : v = direction.velocity := by
  unfold ofVelocity? at leads
  split_ifs at leads <;> cases leads <;> assumption

end Direction

namespace Dims

/-! ## Going around -/

def after (size i : Nat) : Nat := if i = size - 1 then 0 else i + 1

def before (size i : Nat) : Nat := if i = 0 then size - 1 else i - 1

theorem after_lt {size i : Nat} (inside : i < size) : after size i < size := by
  unfold after
  split <;> omega

theorem before_lt {size i : Nat} (inside : i < size) : before size i < size := by
  unfold before
  split <;> omega

theorem emod_eq_of_eq_add_mul {x y m : Int} (low : 0 ≤ y) (high : y < m) (k : Int)
    (apart : x = y + m * k) : x % m = y := by
  rw [apart, Int.add_mul_emod_self_left, Int.emod_eq_of_lt low high]

theorem emod_of_lt {size i : Nat} (inside : i < size) : (i : Int) % size = i :=
  Int.emod_eq_of_lt (by omega) (by omega)

theorem add_emod_of_dvd {size i : Nat} {shift : Int} (inside : i < size)
    (turns : (size : Int) ∣ shift) : ((i : Int) + shift) % size = i := by
  obtain ⟨k, rfl⟩ := turns
  rw [Int.add_mul_emod_self_left, emod_of_lt inside]

theorem after_eq_emod {size i : Nat} (inside : i < size) :
    (after size i : Int) = (i + 1) % size := by
  have bound := after_lt inside
  refine (emod_eq_of_eq_add_mul (by omega) (by omega) (if i = size - 1 then 1 else 0) ?_).symm
  unfold after
  split <;> omega

theorem before_eq_emod {size i : Nat} (inside : i < size) :
    (before size i : Int) = (i + -1) % size := by
  have bound := before_lt inside
  refine (emod_eq_of_eq_add_mul (by omega) (by omega) (if i = 0 then -1 else 0) ?_).symm
  unfold before
  split <;> omega

/-! ## One move -/

variable {d : Dims}

section Inside

variable {cell : Nat}

theorem target_velocity (cell : Nat) (direction : Direction) :
    d.target cell direction.velocity = d.neighbour cell direction % d.area := by
  simp [target]

theorem target_of_no_direction {v : Int8} (nowhere : Direction.ofVelocity? v = none)
    (inside : cell < d.area) : d.target cell v = cell := by
  rw [target, nowhere]
  exact Nat.mod_eq_of_lt inside

theorem target_right (inside : cell < d.area) :
    d.target cell Direction.right.velocity =
      d.row cell * d.cols + after d.cols (d.col cell) := by
  have cols := col_lt_cols inside
  have here := d.row_mul_add_col cell
  have next : d.neighbour cell .right = d.row cell * d.cols + after d.cols (d.col cell) := by
    show (if d.col cell = d.cols - 1 then _ else _) = _
    unfold after
    split <;> omega
  rw [target_velocity, next, Nat.mod_eq_of_lt]
  exact mul_add_lt_area (row_lt_rows inside) (after_lt cols)

theorem target_left (inside : cell < d.area) :
    d.target cell Direction.left.velocity =
      d.row cell * d.cols + before d.cols (d.col cell) := by
  have cols := col_lt_cols inside
  have here := d.row_mul_add_col cell
  have next : d.neighbour cell .left = d.row cell * d.cols + before d.cols (d.col cell) := by
    show (if d.col cell = 0 then _ else _) = _
    unfold before
    split <;> omega
  rw [target_velocity, next, Nat.mod_eq_of_lt]
  exact mul_add_lt_area (row_lt_rows inside) (before_lt cols)

theorem target_down (inside : cell < d.area) :
    d.target cell Direction.down.velocity =
      after d.rows (d.row cell) * d.cols + d.col cell := by
  have rows := row_lt_rows inside
  have here := d.row_mul_add_col cell
  have below := mul_add_lt_area (after_lt rows) (col_lt_cols inside)
  rw [target_velocity]
  show (cell + d.cols) % d.area = _
  by_cases last : d.row cell = d.rows - 1
  · -- The last row and one more are all rows, so the sum leaves the column alone.
    have whole : d.row cell * d.cols + d.cols = d.area := by
      rw [← Nat.succ_mul, area]
      congr 1
      omega
    have around : cell + d.cols = d.col cell + d.area := by omega
    have first : after d.rows (d.row cell) = 0 := if_pos last
    rw [first, Nat.zero_mul, Nat.zero_add] at below ⊢
    rw [around, Nat.add_mod_right, Nat.mod_eq_of_lt below]
  · have next : after d.rows (d.row cell) = d.row cell + 1 := if_neg last
    have sum : cell + d.cols = (d.row cell + 1) * d.cols + d.col cell := by
      rw [Nat.succ_mul]
      omega
    rw [next] at below ⊢
    rw [sum, Nat.mod_eq_of_lt below]

theorem target_up (inside : cell < d.area) :
    d.target cell Direction.up.velocity =
      before d.rows (d.row cell) * d.cols + d.col cell := by
  have rows := row_lt_rows inside
  have here := d.row_mul_add_col cell
  have above := mul_add_lt_area (before_lt rows) (col_lt_cols inside)
  rw [target_velocity]
  show (cell + d.area - d.cols) % d.area = _
  by_cases first : d.row cell = 0
  · have last : before d.rows (d.row cell) = d.rows - 1 := if_pos first
    have less : (d.rows - 1) * d.cols = d.area - d.cols := Nat.sub_one_mul d.rows d.cols
    have enough : d.cols ≤ d.area := Nat.le_mul_of_pos_left d.cols (by omega)
    rw [first, Nat.zero_mul] at here
    rw [last] at above ⊢
    have around : cell + d.area - d.cols = (d.rows - 1) * d.cols + d.col cell := by omega
    rw [around, Nat.mod_eq_of_lt above]
  · have previous : before d.rows (d.row cell) = d.row cell - 1 := if_neg first
    have less : (d.row cell - 1) * d.cols = d.row cell * d.cols - d.cols :=
      Nat.sub_one_mul (d.row cell) d.cols
    have enough : d.cols ≤ d.row cell * d.cols := Nat.le_mul_of_pos_left d.cols (by omega)
    rw [previous] at above ⊢
    have around : cell + d.area - d.cols =
        (d.row cell - 1) * d.cols + d.col cell + d.area := by omega
    rw [around, Nat.add_mod_right, Nat.mod_eq_of_lt above]

/-- A move changes the row and the column by its shift, each around its own side. -/
theorem row_col_target (inside : cell < d.area) (direction : Direction) :
    (d.row (d.target cell direction.velocity) : Int) =
        (d.row cell + direction.rowShift) % d.rows ∧
      (d.col (d.target cell direction.velocity) : Int) =
        (d.col cell + direction.colShift) % d.cols := by
  have rows := row_lt_rows inside
  have cols := col_lt_cols inside
  cases direction with
  | up =>
      rw [row_of_eq (target_up inside) cols, col_of_eq (target_up inside) cols]
      exact ⟨before_eq_emod rows, by simp [Direction.colShift, emod_of_lt cols]⟩
  | left =>
      rw [row_of_eq (target_left inside) (before_lt cols),
        col_of_eq (target_left inside) (before_lt cols)]
      exact ⟨by simp [Direction.rowShift, emod_of_lt rows], before_eq_emod cols⟩
  | right =>
      rw [row_of_eq (target_right inside) (after_lt cols),
        col_of_eq (target_right inside) (after_lt cols)]
      exact ⟨by simp [Direction.rowShift, emod_of_lt rows], after_eq_emod cols⟩
  | down =>
      rw [row_of_eq (target_down inside) cols, col_of_eq (target_down inside) cols]
      exact ⟨after_eq_emod rows, by simp [Direction.colShift, emod_of_lt cols]⟩

/-! ## Moves one after the other -/

/-- The cell that moves with the given velocities lead to, one after the other. -/
def follow (d : Dims) (cell : Nat) (path : List Int8) : Except Fault Nat :=
  path.foldlM d.move cell

theorem follow_cons (cells : 0 < d.area) (v : Int8) (path : List Int8) :
    d.follow cell (v :: path) = d.follow (d.target cell v) path := by
  rw [follow, List.foldlM_cons, move_of_area_pos d cell v cells]
  rfl

theorem follow_eq_foldl (cells : 0 < d.area) (path : List Int8) :
    d.follow cell path = .ok (path.foldl d.target cell) := by
  induction path generalizing cell with
  | nil => rfl
  | cons v path ih =>
      rw [follow_cons cells, ih]
      rfl

/-- Along a path the row and the column change by the sum of the shifts. -/
theorem row_col_foldl_target (inside : cell < d.area) (path : List Direction) :
    let reached := (path.map Direction.velocity).foldl d.target cell
    reached < d.area ∧
      (d.row reached : Int) = (d.row cell + (path.map Direction.rowShift).sum) % d.rows ∧
      (d.col reached : Int) = (d.col cell + (path.map Direction.colShift).sum) % d.cols := by
  induction path generalizing cell with
  | nil =>
      refine ⟨inside, ?_, ?_⟩
      · simp [emod_of_lt (row_lt_rows inside)]
      · simp [emod_of_lt (col_lt_cols inside)]
  | cons direction path ih =>
      have reached := target_lt_area d cell direction.velocity (Nat.zero_lt_of_lt inside)
      obtain ⟨rows, cols⟩ := row_col_target inside direction
      obtain ⟨within, rowLaw, colLaw⟩ := ih reached
      rw [rows, Int.emod_add_emod, Int.add_assoc] at rowLaw
      rw [cols, Int.emod_add_emod, Int.add_assoc] at colLaw
      exact ⟨within, rowLaw, colLaw⟩

/-- Paths with the same shifts lead to the same cell. -/
theorem follow_eq_of_sum_eq (inside : cell < d.area) (path other : List Direction)
    (rows : (path.map Direction.rowShift).sum = (other.map Direction.rowShift).sum)
    (cols : (path.map Direction.colShift).sum = (other.map Direction.colShift).sum) :
    d.follow cell (path.map Direction.velocity) =
      d.follow cell (other.map Direction.velocity) := by
  have cells := Nat.zero_lt_of_lt inside
  obtain ⟨_, row, col⟩ := row_col_foldl_target inside path
  obtain ⟨_, otherRow, otherCol⟩ := row_col_foldl_target inside other
  rw [rows, ← otherRow] at row
  rw [cols, ← otherCol] at col
  rw [follow_eq_foldl cells, follow_eq_foldl cells,
    eq_of_row_eq_of_col_eq (Int.ofNat_inj.mp row) (Int.ofNat_inj.mp col)]

theorem follow_opposite (inside : cell < d.area) (direction : Direction) :
    d.follow cell [direction.velocity, -direction.velocity] = .ok cell := by
  rw [Direction.neg_velocity]
  apply follow_eq_of_sum_eq inside [direction, direction.opposite] []
  · show direction.rowShift + (direction.opposite.rowShift + 0) = 0
    rw [Direction.rowShift_opposite]
    omega
  · show direction.colShift + (direction.opposite.colShift + 0) = 0
    rw [Direction.colShift_opposite]
    omega

theorem follow_comm (inside : cell < d.area) (direction other : Direction) :
    d.follow cell [direction.velocity, other.velocity] =
      d.follow cell [other.velocity, direction.velocity] := by
  apply follow_eq_of_sum_eq inside [direction, other] [other, direction]
  · simp [Int.add_comm]
  · simp [Int.add_comm]

/-! ## Repeated moves -/

theorem foldl_replicate_target (v : Int8) (k : Nat) :
    (List.replicate k v).foldl d.target cell = (d.target · v)^[k] cell := by
  induction k generalizing cell with
  | zero => rfl
  | succ k ih =>
      rw [List.replicate_succ, List.foldl_cons, ih, Function.iterate_succ_apply]

theorem row_col_iterate_target (inside : cell < d.area) (direction : Direction) (k : Nat) :
    (d.row ((d.target · direction.velocity)^[k] cell) : Int) =
        (d.row cell + k * direction.rowShift) % d.rows ∧
      (d.col ((d.target · direction.velocity)^[k] cell) : Int) =
        (d.col cell + k * direction.colShift) % d.cols := by
  have path := (row_col_foldl_target inside (List.replicate k direction)).2
  simpa [foldl_replicate_target] using path

/-- How many moves with a velocity lead once around. -/
def period (d : Dims) (v : Int8) : Nat :=
  match Direction.ofVelocity? v with
  | some .up | some .down => d.rows
  | some .left | some .right => d.cols
  | none => 1

theorem period_pos (inside : cell < d.area) (v : Int8) : 0 < d.period v := by
  have rows := row_lt_rows inside
  have cols := col_lt_cols inside
  unfold period
  split <;> omega

theorem period_le_area (inside : cell < d.area) (v : Int8) : d.period v ≤ d.area := by
  have rows := row_lt_rows inside
  have cols := col_lt_cols inside
  unfold period
  split
  · exact Nat.le_mul_of_pos_right d.rows (by omega)
  · exact Nat.le_mul_of_pos_right d.rows (by omega)
  · exact Nat.le_mul_of_pos_left d.cols (by omega)
  · exact Nat.le_mul_of_pos_left d.cols (by omega)
  · omega

/-- Moves whose shifts are multiples of the sides lead back. -/
theorem iterate_target_of_dvd (inside : cell < d.area) (direction : Direction) (k : Nat)
    (rows : (d.rows : Int) ∣ k * direction.rowShift)
    (cols : (d.cols : Int) ∣ k * direction.colShift) :
    (d.target · direction.velocity)^[k] cell = cell := by
  obtain ⟨rowLaw, colLaw⟩ := row_col_iterate_target inside direction k
  rw [add_emod_of_dvd (row_lt_rows inside) rows] at rowLaw
  rw [add_emod_of_dvd (col_lt_cols inside) cols] at colLaw
  exact eq_of_row_eq_of_col_eq (Int.ofNat_inj.mp rowLaw) (Int.ofNat_inj.mp colLaw)

theorem iterate_target_period (inside : cell < d.area) (v : Int8) :
    (d.target · v)^[d.period v] cell = cell := by
  cases leads : Direction.ofVelocity? v with
  | none =>
      have once : d.period v = 1 := by rw [period, leads]
      rw [once]
      exact target_of_no_direction leads inside
  | some direction =>
      obtain rfl := Direction.eq_velocity_of_ofVelocity? leads
      cases direction with
      | up =>
          exact iterate_target_of_dvd inside .up d.rows ⟨-1, rfl⟩
            ⟨0, by simp [Direction.colShift]⟩
      | left =>
          exact iterate_target_of_dvd inside .left d.cols
            ⟨0, by simp [Direction.rowShift]⟩ ⟨-1, rfl⟩
      | right =>
          exact iterate_target_of_dvd inside .right d.cols
            ⟨0, by simp [Direction.rowShift]⟩ ⟨1, rfl⟩
      | down =>
          exact iterate_target_of_dvd inside .down d.rows ⟨1, rfl⟩
            ⟨0, by simp [Direction.colShift]⟩

theorem follow_around (inside : cell < d.area) (v : Int8) :
    d.follow cell (List.replicate (d.period v) v) = .ok cell := by
  rw [follow_eq_foldl (Nat.zero_lt_of_lt inside), foldl_replicate_target,
    iterate_target_period inside]

end Inside

/-- From a cell of a grid every move leads to a cell, whose row and column are those of the
first one shifted around the sides of the grid.  So a move and the opposite one cancel out,
two moves may change places, and once around is back. -/
theorem moves_go_around_torus (d : Dims) (cell : Nat) (inside : cell < d.rows * d.cols) :
    (∀ direction : Direction,
      ∃ reached, d.move cell direction.velocity = .ok reached ∧ reached < d.rows * d.cols ∧
        ((reached / d.cols : Nat) : Int) =
          ((cell / d.cols : Nat) + direction.rowShift) % d.rows ∧
        ((reached % d.cols : Nat) : Int) =
          ((cell % d.cols : Nat) + direction.colShift) % d.cols ∧
        d.move reached (-direction.velocity) = .ok cell) ∧
    (∀ one other : Direction, ∃ reached,
      d.follow cell [one.velocity, other.velocity] = .ok reached ∧
        d.follow cell [other.velocity, one.velocity] = .ok reached) ∧
    (∀ horizontal ∈ [Direction.left, .right],
      d.follow cell (List.replicate d.cols horizontal.velocity) = .ok cell) ∧
    (∀ vertical ∈ [Direction.up, .down],
      d.follow cell (List.replicate d.rows vertical.velocity) = .ok cell) := by
  have cells : 0 < d.area := Nat.zero_lt_of_lt inside
  refine ⟨?_, ?_, ?_, ?_⟩
  · intro direction
    obtain ⟨rows, cols⟩ := row_col_target inside direction
    have forth := move_of_area_pos d cell direction.velocity cells
    have back := follow_opposite inside direction
    rw [follow_eq_foldl cells] at back
    exact ⟨_, forth, target_lt_area d cell _ cells, rows, cols,
      (move_of_area_pos d _ _ cells).trans back⟩
  · intro one other
    have first : d.follow cell [one.velocity, other.velocity] = .ok _ := follow_eq_foldl cells _
    exact ⟨_, first, (follow_comm inside other one).trans first⟩
  · intro horizontal member
    have around := follow_around inside horizontal.velocity
    simp only [List.mem_cons, List.not_mem_nil, or_false] at member
    rcases member with rfl | rfl
    · exact around
    · exact around
  · intro vertical member
    have around := follow_around inside vertical.velocity
    simp only [List.mem_cons, List.not_mem_nil, or_false] at member
    rcases member with rfl | rfl
    · exact around
    · exact around

/-- The last cell of the first of two rows: both of its moves over an edge, and both ways
around. -/
theorem moves_go_around_torus_from_corner :
    let d : Dims := ⟨2, 3⟩
    d.move 2 Direction.up.velocity = .ok 5 ∧ d.move 5 (-Direction.up.velocity) = .ok 2 ∧
      d.move 2 Direction.right.velocity = .ok 0 ∧
      d.follow 2 [Direction.up.velocity, Direction.right.velocity] = .ok 3 ∧
      d.follow 2 [Direction.right.velocity, Direction.up.velocity] = .ok 3 ∧
      d.follow 2 (List.replicate 3 Direction.right.velocity) = .ok 2 ∧
      d.follow 2 (List.replicate 2 Direction.up.velocity) = .ok 2 := by
  intro d
  obtain ⟨moves, pairs, horizontal, vertical⟩ := moves_go_around_torus d 2 (by decide)
  obtain ⟨above, up, _, _, _, back⟩ := moves .up
  obtain ⟨met, first, second⟩ := pairs .up .right
  have five : d.move 2 Direction.up.velocity = .ok 5 := rfl
  have three : d.follow 2 [Direction.up.velocity, Direction.right.velocity] = .ok 3 := by
    rw [follow_eq_foldl (by decide)]
    exact congrArg Except.ok (by decide)
  cases up.symm.trans five
  cases first.symm.trans three
  exact ⟨five, back, rfl, three, second, horizontal .right (by simp),
    vertical .up (by simp)⟩

end Dims

end StepLab
