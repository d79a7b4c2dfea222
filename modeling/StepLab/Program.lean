import StepLab.Grid.Text

/-! # Programs

A program is what its author edits: a text, or a grid. -/

set_option autoImplicit false

namespace StepLab

inductive Program where
  | text (source : String)
  | grid (source : Grid)
  deriving DecidableEq

namespace Program

def toText : Program → String
  | text source => source
  | grid source => source.toText

/-- The source as a grid; a text takes the smallest grid that holds it. -/
def toGrid : Program → Grid
  | text source => Grid.fitText source
  | grid source => source

end Program

end StepLab
