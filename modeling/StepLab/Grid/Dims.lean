import StepLab.LoadError
import StepLab.Text.Blank
import StepLab.Text.Numeral

/-! # Grid dimensions

They are written `ROWSxCOLS`, in either case of the cross and with blanks around the numerals. -/

set_option autoImplicit false

namespace StepLab

structure Dims where
  rows : Nat
  cols : Nat
  deriving DecidableEq, Repr

namespace Dims

def area (d : Dims) : Nat := d.rows * d.cols

def text (d : Dims) : String :=
  toString d.rows ++ "x" ++ toString d.cols

def isCross (c : Char) : Bool := c = 'x' || c = 'X'

def splitAtCross (text : List Char) : Option (List Char × List Char) :=
  match text.dropWhile (fun c => !isCross c) with
  | [] => none
  | _ :: after => some (text.takeWhile (fun c => !isCross c), after)

/-- The two numerals of a written size, before any check of their values. -/
def readNumerals? (text : List Char) : Option Dims := do
  let (before, after) ← splitAtCross text
  let rows ← Text.readWord? (Text.trim before)
  let cols ← Text.readWord? (Text.trim after)
  return ⟨rows, cols⟩

/-- Reads a written size with at least one row and one column. -/
def parse (text : String) : Except LoadError Dims :=
  match readNumerals? text.toList with
  | none => .error (.invalidGridSize text)
  | some d =>
      if d.rows = 0 || d.cols = 0 then .error (.emptyGrid d.rows d.cols)
      else .ok d

end Dims

end StepLab
