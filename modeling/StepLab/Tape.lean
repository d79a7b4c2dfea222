import StepLab.Fault

/-! # Tapes

A tape starts with one cell holding zero and grows at its right end.  Reading and writing
fault where the pointer has no cell. -/

set_option autoImplicit false

namespace StepLab

structure Tape where
  pointer : Nat := 0
  cells : Array Int64 := #[0]
  deriving DecidableEq

namespace Tape

def read (t : Tape) : Except Fault Int64 :=
  match t.cells[t.pointer]? with
  | some cell => .ok cell
  | none => .error (.noTapeCell t.pointer)

theorem read_of_lt (t : Tape) (inside : t.pointer < t.cells.size) :
    t.read = .ok (getElem t.cells t.pointer inside) := by
  simp [read, inside]

def current (t : Tape) : Int64 := t.cells[t.pointer]?.getD 0

def update (t : Tape) (f : Int64 → Int64) : Except Fault Tape :=
  t.read.map fun cell => { t with cells := t.cells.setIfInBounds t.pointer (f cell) }

/-- Moves the pointer to the right; a new last cell holds `fresh`. -/
def right (t : Tape) (fresh : Int64) : Tape where
  pointer := t.pointer + 1
  cells := if t.pointer + 1 = t.cells.size then t.cells.push fresh else t.cells

/-- Moves the pointer to the left, not past the first cell. -/
def left (t : Tape) : Tape := { t with pointer := t.pointer - 1 }

def rewind (t : Tape) : Tape := { t with pointer := 0 }

theorem pointer_right_lt (t : Tape) (fresh : Int64) (inside : t.pointer < t.cells.size) :
    (t.right fresh).pointer < (t.right fresh).cells.size := by
  by_cases last : t.pointer + 1 = t.cells.size
  · simp [right, last]
  · simp only [right, last, if_false]
    omega

end Tape

end StepLab
