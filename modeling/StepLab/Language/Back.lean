import StepLab.Grid.Torus
import StepLab.Language.Basic
import StepLab.Tape

/-! # Back

A language on a torus of characters with a tape of bits.  Execution starts in
the upper left corner, moving right, and never ends; only a grid without cells
has ended from the start.

* `\` and `/` are mirrors;
* `<` and `>` move on the tape, which grows with zeros;
* `-` flips the current bit;
* `+` on a zero bit goes on to the next directive along its way and past it;
* `*` does nothing but is a directive.

Every other character does nothing and is no directive. -/

set_option autoImplicit false

namespace StepLab.Back

inductive Op where
  | fallingMirror
  | risingMirror
  | left
  | right
  | flip
  | skip
  | rest
  deriving DecidableEq, Repr

def Op.ofChar? (c : Char) : Option Op :=
  if c = '\\' then some .fallingMirror
  else if c = '/' then some .risingMirror
  else if c = '<' then some .left
  else if c = '>' then some .right
  else if c = '-' then some .flip
  else if c = '+' then some .skip
  else if c = '*' then some .rest
  else none

structure State where
  position : Option Nat
  velocity : Int8 := Direction.right.velocity
  tape : Tape := {}
  ended : Bool := false
  grid : Grid
  deriving DecidableEq

/-- The sum of the two velocities that a falling mirror exchanges. -/
def mirrorSum (velocity : Int8) : Int8 :=
  if 0 < velocity then 3 else -3

def opAt (g : Grid) (position : Nat) : Option Op :=
  (g.get? position).bind Op.ofChar?

/-- Moves until a directive is reached, at least once and at most `fuel` times. -/
def scan (g : Grid) (velocity : Int8) : Nat → Nat → Except Fault Nat
  | 0, position => .ok position
  | fuel + 1, position =>
      match g.dims.move position velocity with
      | .error fault => .error fault
      | .ok cell =>
          if (opAt g cell).isSome then .ok cell else scan g velocity fuel cell

/-- Where execution goes on from when the current bit is zero.  The way leads
back to the `+` itself after at most a whole row or column, so as many moves as
the grid has cells are enough. -/
def skipTo (s : State) (position : Nat) : Except Fault Nat :=
  scan s.grid s.velocity s.grid.dims.area position

def advance (s : State) (position : Nat) : Except Fault State :=
  (s.grid.dims.move position s.velocity).map fun cell =>
    { s with position := some cell }

def executeAt (s : State) (position : Nat) : Except Fault State :=
  match opAt s.grid position with
  | some .fallingMirror =>
      advance { s with velocity := mirrorSum s.velocity - s.velocity } position
  | some .risingMirror =>
      advance { s with velocity := s.velocity - mirrorSum s.velocity } position
  | some .left => advance { s with tape := s.tape.left } position
  | some .right => advance { s with tape := s.tape.right 0 } position
  | some .flip => do
      let tape ← s.tape.update (· ^^^ 1)
      advance { s with tape } position
  | some .skip => do
      let bit ← s.tape.read
      let reached ← if bit = 0 then skipTo s position else .ok position
      advance s reached
  | some .rest => advance s position
  | none => advance s position

def execute (s : State) : Except Fault State :=
  if s.ended then .ok s
  else
    match s.position with
    | none => .ok s
    | some position => executeAt s position

def seed (g : Grid) : State where
  position := if g.dims.area = 0 then none else some 0
  ended := g.dims.area = 0
  grid := g

def view (s : State) : View where
  code := s.grid.cells.toList
  grid := some s.grid.dims
  cursor := s.position
  tape := s.tape.cells
  pointer := s.tape.pointer
  ended := s.ended

end StepLab.Back

namespace StepLab

def back : Language where
  State := Back.State
  decEqState := inferInstance
  name := "Back"
  displays := { tape := true }
  normalize source := source
  seed program := Back.seed program.toGrid
  execute := Back.execute
  ended := Back.State.ended
  view := Back.view

end StepLab
