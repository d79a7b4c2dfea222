import StepLab.Fault
import StepLab.Grid.Dims

/-! # Moving on a torus

Cells are numbered row by row.  A move off one side comes in at the opposite side, in the
same row or column. -/

set_option autoImplicit false

namespace StepLab

inductive Direction where
  | up
  | left
  | right
  | down
  deriving DecidableEq, Repr

namespace Direction

def all : List Direction := [up, left, right, down]

/-- The signed code: vertical moves are 2, horizontal ones 1, and opposite
directions have opposite signs. -/
def velocity : Direction → Int8
  | up => -2
  | left => -1
  | right => 1
  | down => 2

def ofVelocity? (v : Int8) : Option Direction :=
  if v = -2 then some up
  else if v = -1 then some left
  else if v = 1 then some right
  else if v = 2 then some down
  else none

@[simp] theorem ofVelocity?_velocity (d : Direction) :
    ofVelocity? d.velocity = some d := by
  cases d <;> decide

def name : Direction → String
  | up => "Up"
  | left => "Left"
  | right => "Right"
  | down => "Down"

end Direction

namespace Dims

/-- The neighbour of a cell.  Horizontal moves wrap here, within their row; a
vertical move wraps by the remainder that `target` takes. -/
def neighbour (d : Dims) (start : Nat) : Direction → Nat
  | .down => start + d.cols
  | .up => start + d.area - d.cols
  | .right =>
      if start % d.cols = d.cols - 1 then start - (d.cols - 1) else start + 1
  | .left =>
      if start % d.cols = 0 then start + (d.cols - 1) else start - 1

def target (d : Dims) (start : Nat) (velocity : Int8) : Nat :=
  (match Direction.ofVelocity? velocity with
    | some direction => d.neighbour start direction
    | none => start) % d.area

def move (d : Dims) (start : Nat) (velocity : Int8) : Except Fault Nat :=
  if d.area = 0 then .error .emptyGrid else .ok (d.target start velocity)

theorem move_of_area_pos (d : Dims) (start : Nat) (velocity : Int8)
    (cells : 0 < d.area) : d.move start velocity = .ok (d.target start velocity) := by
  simp [move, Nat.ne_of_gt cells]

theorem target_lt_area (d : Dims) (start : Nat) (velocity : Int8)
    (cells : 0 < d.area) : d.target start velocity < d.area :=
  Nat.mod_lt _ cells

def gap (a b : Nat) : Nat := (a - b) + (b - a)

/-- Rows apart plus columns apart, for cells of a grid with `cols` columns: the first
cells of two rows are `cols` apart for each row between them. -/
def distance (cols a b : Nat) : Nat :=
  gap (a - a % cols) (b - b % cols) / cols + gap (a % cols) (b % cols)

def distanceOf (cols a b : Nat) : Except Fault Nat :=
  if cols = 0 then .error .emptyGrid else .ok (distance cols a b)

end Dims

end StepLab
