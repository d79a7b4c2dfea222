/-! # Why a step or a drawing has no result -/

set_option autoImplicit false

namespace StepLab

inductive Fault where
  | noTapeCell (index : Nat)
  /-- A move or a distance on a grid without cells. -/
  | emptyGrid
  | offScreen
  deriving DecidableEq, Repr

end StepLab
