import StepLab.Engine.Pace

/-! # Session options -/

set_option autoImplicit false

namespace StepLab

structure Options where
  pace : Pace := {}
  input : String := ""
  seed : UInt64 := 0x5EED0F2D
  deriving DecidableEq, Repr

end StepLab
