import StepLab.Program

/-! # Actions of an engine -/

set_option autoImplicit false

namespace StepLab

inductive Action where
  | run
  | stop
  | reset
  | prev
  | next
  /-- What the ticker sends: go forward, or pause at the end. -/
  | tick
  | fastForward
  | edit (program : Program)
  deriving DecidableEq

namespace Action

def name : Action → String
  | run => "run"
  | stop => "stop"
  | reset => "reset"
  | prev => "prev"
  | next => "next"
  | tick => "timer"
  | fastForward => "ff"
  | edit _ => "edit"

def resetQuestion : String := "Reset the program to its initial state?"

def question? : Action → Option String
  | reset => some resetQuestion
  | _ => none

end Action

/-- The time in milliseconds and the answer to a question. -/
structure Host where
  now : Nat := 0
  confirm : Bool := false
  deriving DecidableEq, Repr

end StepLab
