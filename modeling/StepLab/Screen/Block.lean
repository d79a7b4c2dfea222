import StepLab.Screen.Line
import StepLab.Text.Width

/-! # Bordered blocks

Where sides and corners fall on the same cell of a small area, the corners win, and of two
corners the upper one, then the left one. -/

set_option autoImplicit false

namespace StepLab

structure Block where
  title : String
  style : Style

namespace Block

def borderAt (area : Area) (x y : Nat) : Option Char :=
  let left := x = area.x
  let right := x + 1 = area.right
  let top := y = area.y
  let bottom := y + 1 = area.bottom
  if left && top then some '┌'
  else if left && bottom then some '└'
  else if right && top then some '┐'
  else if right && bottom then some '┘'
  else if bottom then some '─'
  else if right then some '│'
  else if top then some '─'
  else if left then some '│'
  else none

/-- The characters of a title as far as they are drawn, one in a column: every line
has as many columns as it is wide. -/
def titleGlyphs (title : String) : List Char :=
  (Text.lines title.toList).flatMap fun line => line.take (Text.width line)

/-- The title character at a position: the title starts after the left corner and
ends before the right one. -/
def titleAt (title : Array Char) (area : Area) (x y : Nat) : Option Char :=
  if y = area.y && area.x < x && x + 1 < area.right then title[x - (area.x + 1)]? else none

def draw (b : Block) (area : Area) : Picture :=
  let title := (titleGlyphs b.title).toArray
  { paint := fun screen x y cell =>
      if area.contains x y then
        let shown := area.clip screen
        match borderAt shown x y with
        | none => cell
        | some border => cell.write ((titleAt title shown x y).getD border) b.style
      else cell }

end Block

end StepLab
