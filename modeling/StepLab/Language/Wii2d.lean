import StepLab.Grid.Torus
import StepLab.Language.Basic
import StepLab.Random
import StepLab.Text.Numeral
import StepLab.Text.Quoted
import StepLab.Word

/-! # WII2D

A language on a torus of characters with one register.  Execution starts at the
only `!`, moving up; a grid without exactly one `!` has ended from the start.

* `^ < > v` turn, `|` turns back, `?` turns at random;
* a digit sets the register, `+` and `-` count it up and down, `*` doubles it,
  `s` squares it, `/` halves it rounding down;
* `~` prints the character whose code point is in the register;
* `@` jumps to the cell above the second nearest `@`, or above itself when it
  is the only one;
* `.` ends the program.

Every other character does nothing.  The seed of the random turns is part of
the state, so a state has one successor. -/

set_option autoImplicit false

namespace StepLab.Wii2d

inductive Op where
  | turn (direction : Direction)
  | turnBack
  | turnRandom
  | digit (value : Nat)
  | raise
  | lower
  | double
  | square
  | halve
  | print
  | warp
  | halt
  deriving DecidableEq, Repr

def startMark : Char := '!'

def warpMark : Char := '@'

def Op.ofChar? (c : Char) : Option Op :=
  if c = '^' then some (.turn .up)
  else if c = '<' then some (.turn .left)
  else if c = '>' then some (.turn .right)
  else if c = 'v' then some (.turn .down)
  else if c = '|' then some .turnBack
  else if c = '?' then some .turnRandom
  else if Text.isDigit c then some (.digit (Text.digitValue c))
  else if c = '+' then some .raise
  else if c = '-' then some .lower
  else if c = '*' then some .double
  else if c = 's' then some .square
  else if c = '/' then some .halve
  else if c = '~' then some .print
  else if c = warpMark then some .warp
  else if c = '.' then some .halt
  else none

structure State where
  position : Option Nat
  velocity : Int8 := Direction.up.velocity
  register : Int64 := 0
  output : String := ""
  rng : UInt64
  ended : Bool := false
  grid : Grid
  deriving DecidableEq

def start? (g : Grid) : Option Nat :=
  match g.positions startMark with
  | [only] => some only
  | _ => none

/-- The warp that a warp leads to: the second nearest one, counting itself and
taking the first in reading order of equally near ones; itself when it is the
only one. -/
def warpTarget (g : Grid) (position : Nat) : Nat :=
  let nearestFirst := (g.positions warpMark).mergeSort fun a b =>
    Dims.distance g.dims.cols position a ≤ Dims.distance g.dims.cols position b
  nearestFirst[1]?.getD position

def randomTurn (seed : UInt64) : Int8 × UInt64 :=
  let (choice, rest) := (Random.Generator.ofSeed seed).pickQuarter
  (((Direction.all[choice]?).map Direction.velocity).getD 0, rest.next.1)

def perform (op : Op) (s : State) : State :=
  match op with
  | .turn direction => { s with velocity := direction.velocity }
  | .turnBack => { s with velocity := -s.velocity }
  | .turnRandom =>
      { s with velocity := (randomTurn s.rng).1, rng := (randomTurn s.rng).2 }
  | .digit value => { s with register := Int64.ofNat value }
  | .raise => { s with register := Word.add s.register 1 }
  | .lower => { s with register := Word.sub s.register 1 }
  | .double => { s with register := Word.mul s.register 2 }
  | .square => { s with register := Word.mul s.register s.register }
  | .halve => { s with register := Word.half s.register }
  | .print => { s with output := s.output.push (Text.charOfCode s.register) }
  | .warp => s
  | .halt => s

def advance (s : State) (position : Nat) : Except Fault State :=
  (s.grid.dims.move position s.velocity).map fun cell =>
    { s with position := some cell }

def opAt (g : Grid) (position : Nat) : Option Op :=
  (g.get? position).bind Op.ofChar?

def executeAt (s : State) (position : Nat) : Except Fault State :=
  match opAt s.grid position with
  | none => advance s position
  | some .warp =>
      (s.grid.dims.move (warpTarget s.grid position) Direction.up.velocity).map fun cell =>
        { s with position := some cell }
  | some .halt => .ok { s with position := none, ended := true }
  | some op => advance (perform op s) position

def execute (s : State) : Except Fault State :=
  if s.ended then .ok s
  else
    match s.position with
    | none => .ok s
    | some position => executeAt s position

def seed (rng : UInt64) (g : Grid) : State where
  position := start? g
  rng := rng
  ended := (start? g).isNone
  grid := g

def view (s : State) : View where
  code := s.grid.cells.toList
  grid := some s.grid.dims
  cursor := s.position
  output := s.output
  register := s.register
  ended := s.ended

end StepLab.Wii2d

namespace StepLab

def wii2d (rng : UInt64) : Language where
  State := Wii2d.State
  decEqState := inferInstance
  name := "WII2D"
  displays := { output := true, register := true }
  normalize source := source
  seed program := Wii2d.seed rng program.toGrid
  execute := Wii2d.execute
  ended := Wii2d.State.ended
  view := Wii2d.view

end StepLab
