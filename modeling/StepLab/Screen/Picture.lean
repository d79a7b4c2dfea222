import StepLab.Fault
import StepLab.Screen.Area
import StepLab.Screen.Style

/-! # Pictures

A picture says what it does to the cell at every position of a screen.  What lies beyond the
screen is left out, except for texts: a picture with a text that is not all on the screen has
no frame. -/

set_option autoImplicit false

namespace StepLab

structure Cell where
  glyph : Char := ' '
  style : Style := {}
  deriving DecidableEq, Repr

namespace Cell

def restyle (c : Cell) (style : Style) : Cell := { c with style := style.onto c.style }

def reglyph (c : Cell) (glyph : Char) : Cell := { c with glyph }

def write (c : Cell) (glyph : Char) (style : Style) : Cell := (c.restyle style).reglyph glyph

end Cell

structure Picture where
  /-- What is done to the cell of the screen at column `x` and row `y`. -/
  paint : (screen : Area) → (x y : Nat) → Cell → Cell
  fits : (screen : Area) → Bool := fun _ => true

namespace Picture

def nothing : Picture where
  paint := fun _ _ _ cell => cell

def above (top base : Picture) : Picture where
  paint := fun screen x y cell => top.paint screen x y (base.paint screen x y cell)
  fits := fun screen => base.fits screen && top.fits screen

def stack (pictures : List Picture) : Picture :=
  pictures.foldl (fun base top => top.above base) nothing

def within (area : Area) (paint : (x y : Nat) → Cell → Cell) : Picture where
  paint := fun _ x y cell => if area.contains x y then paint x y cell else cell

def fill (area : Area) (style : Style) : Picture :=
  within area fun _ _ cell => cell.restyle style

/-- The rows of a blank screen with the picture on it.  A screen that is too large
for an area is scaled down like one, and a screen without columns has no rows. -/
def rows (p : Picture) (width height : Nat) : List (List Cell) :=
  let screen := Area.bounded 0 0 width height
  if screen.width = 0 then []
  else
    (List.range screen.height).map fun y =>
      (List.range screen.width).map fun x => p.paint screen x y {}

def frame (p : Picture) (width height : Nat) : Except Fault (List (List Cell)) :=
  if p.fits (Area.bounded 0 0 width height) then .ok (p.rows width height)
  else .error .offScreen

end Picture

def Cell.glyphs (row : List Cell) : List Char := row.map Cell.glyph

def Cell.consRun (cell : Cell) : List (Nat × Style) → List (Nat × Style)
  | [] => [(1, cell.style)]
  | (n, style) :: rest =>
      if cell.style = style then (n + 1, style) :: rest else (1, cell.style) :: (n, style) :: rest

def Cell.styleRuns (row : List Cell) : List (Nat × Style) :=
  row.foldr Cell.consRun []

end StepLab
