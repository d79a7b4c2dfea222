/-! # Step intervals, in milliseconds -/

set_option autoImplicit false

namespace StepLab

structure Pace where
  interval : Nat := 200
  fastFromPaused : Nat := 50
  fastFromRunning : Nat := 10
  floor : Nat := 10
  deriving DecidableEq, Repr

def Pace.clamp (p : Pace) (interval : Nat) : Nat := max interval p.floor

def Pace.fast (p : Pace) (paused : Bool) : Nat :=
  p.clamp (if paused then p.fastFromPaused else p.fastFromRunning)

end StepLab
