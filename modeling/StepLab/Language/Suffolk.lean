import StepLab.Language.Basic
import StepLab.Tape
import StepLab.Text.Quoted
import StepLab.Word

/-! # Suffolk

A language of one register and a tape.

* `>` moves right, onto a new cell holding zero at the end of the tape;
* `<` adds the current cell to the register and rewinds the tape;
* `!` sets the current cell to cell minus register plus one, but not below
  zero, clears the register and rewinds the tape;
* `,` sets the register to the code point of the next input character, or to
  zero when the input is used up;
* `.` prints the character whose code point is one below the register, if the
  register is positive.

After its last instruction a program ends, and its next step starts over. -/

set_option autoImplicit false

namespace StepLab.Suffolk

inductive Op where
  | right
  | collect
  | settle
  | read
  | write
  deriving DecidableEq, Repr

def Op.ofChar? (c : Char) : Option Op :=
  if c = '>' then some .right
  else if c = '<' then some .collect
  else if c = '!' then some .settle
  else if c = ',' then some .read
  else if c = '.' then some .write
  else none

def Op.glyph : Op → Char
  | .right => '>'
  | .collect => '<'
  | .settle => '!'
  | .read => ','
  | .write => '.'

/-- A state of execution.  `consumed` counts the input characters read so far. -/
structure State where
  index : Nat := 0
  ended : Bool := false
  register : Int64 := 0
  tape : Tape := {}
  output : String := ""
  consumed : Nat := 0
  code : Array Op
  input : Array Char
  deriving DecidableEq

def readCode (source : String) : Array Op :=
  (source.toList.filterMap Op.ofChar?).toArray

def writeCode (code : Array Op) : List Char :=
  code.toList.map Op.glyph

def perform (op : Op) (s : State) : Except Fault State :=
  match op with
  | .right => .ok { s with tape := s.tape.right 0 }
  | .collect =>
      s.tape.read.map fun cell =>
        { s with register := Word.add s.register cell, tape := s.tape.rewind }
  | .settle =>
      (s.tape.update fun cell => max (cell - (s.register - 1)) 0).map fun tape =>
        { s with register := 0, tape := tape.rewind }
  | .read =>
      match s.input[s.consumed]? with
      | some c =>
          .ok { s with register := Int64.ofNat c.toNat, consumed := s.consumed + 1 }
      | none => .ok { s with register := 0 }
  | .write =>
      .ok (if 0 < s.register then
          { s with output := s.output.push (Text.charOfCode (s.register - 1)) }
        else s)

def execute (s : State) : Except Fault State :=
  match s.code[s.index]? with
  | none => .ok { s with index := 0, ended := true }
  | some op => perform op { s with index := s.index + 1, ended := false }

def view (s : State) : View where
  code := writeCode s.code
  cursor := some s.index
  tape := s.tape.cells
  pointer := s.tape.pointer
  output := s.output
  register := s.register
  ended := s.ended

end StepLab.Suffolk

namespace StepLab

def suffolk (input : String) : Language where
  State := Suffolk.State
  decEqState := inferInstance
  name := "Suffolk"
  displays := { tape := true, output := true, register := true, fastForward := true }
  normalize source := String.ofList (Suffolk.writeCode (Suffolk.readCode source))
  seed program := { code := Suffolk.readCode program.toText, input := input.toList.toArray }
  execute := Suffolk.execute
  ended := Suffolk.State.ended
  view := Suffolk.view

end StepLab
