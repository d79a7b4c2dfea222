import StepLab.Fault
import StepLab.Program

/-! # Languages

`execute` is the rule of a step, which faults where it would touch a tape cell or a grid that
does not exist; `step` stays put there.  Whatever shows a state goes through its `View`. -/

set_option autoImplicit false

namespace StepLab

structure Displays where
  tape : Bool := false
  output : Bool := false
  register : Bool := false
  fastForward : Bool := false
  deriving DecidableEq, Repr

structure View where
  code : List Char := []
  grid : Option Dims := none
  cursor : Option Nat := none
  tape : Array Int64 := #[]
  pointer : Nat := 0
  output : String := ""
  register : Int64 := 0
  ended : Bool := false
  deriving DecidableEq

structure Language where
  State : Type
  decEqState : DecidableEq State
  name : String
  displays : Displays
  /-- The part of a source text that counts. -/
  normalize : String → String
  seed : Program → State
  execute : State → Except Fault State
  ended : State → Bool
  view : State → View

instance (L : Language) : DecidableEq L.State := L.decEqState

namespace Language

def step (L : Language) (s : L.State) : L.State :=
  match L.execute s with
  | .ok next => next
  | .error _ => s

theorem step_eq_of_execute (L : Language) {s next : L.State}
    (h : L.execute s = .ok next) : L.step s = next := by
  simp [step, h]

/-- A map of states that the rule of a step respects is respected by steps. -/
theorem step_map (L : Language) {f : L.State → L.State} {s : L.State}
    (respects : L.execute (f s) = (L.execute s).map f) : L.step (f s) = f (L.step s) := by
  unfold step
  rw [respects]
  cases L.execute s with
  | error fault => rfl
  | ok next => rfl

end Language

end StepLab
