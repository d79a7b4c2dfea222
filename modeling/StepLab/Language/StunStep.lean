import StepLab.Language.Basic
import StepLab.Tape

/-! # Stun Step

A tape language of four instructions.  `+` always raises the current cell; the
other three act only when the current cell is not zero: `-` lowers it, `>`
moves right onto a new cell that holds one, `<` moves left.

After its last instruction a program ends and stands at its first instruction.
An ended program goes on as soon as its current cell is not zero. -/

set_option autoImplicit false

namespace StepLab.StunStep

inductive Op where
  | raise
  | lower
  | right
  | left
  deriving DecidableEq, Repr

def Op.ofChar? (c : Char) : Option Op :=
  if c = '+' then some .raise
  else if c = '-' then some .lower
  else if c = '>' then some .right
  else if c = '<' then some .left
  else none

def Op.glyph : Op → Char
  | .raise => '+'
  | .lower => '-'
  | .right => '>'
  | .left => '<'

structure State where
  index : Nat := 0
  ended : Bool := false
  tape : Tape := {}
  code : Array Op
  deriving DecidableEq

def readCode (source : String) : Array Op :=
  (source.toList.filterMap Op.ofChar?).toArray

def writeCode (code : Array Op) : List Char :=
  code.toList.map Op.glyph

def perform (op : Op) (t : Tape) : Except Fault Tape :=
  match op with
  | .raise => t.update (· + 1)
  | .lower => if t.current = 0 then .ok t else t.update (· - 1)
  | .right => .ok (if t.current = 0 then t else t.right 1)
  | .left => .ok (if t.current = 0 then t else t.left)

def execute (s : State) : Except Fault State :=
  if s.ended && s.tape.current = 0 then .ok s
  else
    match s.code[s.index]? with
    | none => .ok { s with index := 0, ended := true }
    | some op =>
        (perform op s.tape).map fun tape =>
          { s with index := s.index + 1, ended := false, tape }

def view (s : State) : View where
  code := writeCode s.code
  cursor := some s.index
  tape := s.tape.cells
  pointer := s.tape.pointer
  ended := s.ended

end StepLab.StunStep

namespace StepLab

def stunStep : Language where
  State := StunStep.State
  decEqState := inferInstance
  name := "Stun Step"
  displays := { tape := true, fastForward := true }
  normalize source := String.ofList (StunStep.writeCode (StunStep.readCode source))
  seed program := { code := StunStep.readCode program.toText }
  execute := StunStep.execute
  ended := StunStep.State.ended
  view := StunStep.view

end StepLab
