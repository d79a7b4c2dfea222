import StepLab.Screen.Picture
import StepLab.Text.Lines

/-! # Lines of styled text

A line is a list of styled characters.  It is assumed that every character takes one column:
`GlyphRow.paintAt` puts the glyph at index `i` of a row into its column `i`.  The library that
draws on the terminal, ratatui, measures the Unicode width instead, which agrees for the
characters that are one column wide. -/

set_option autoImplicit false

namespace StepLab

structure Glyph where
  char : Char
  style : Style := {}
  deriving DecidableEq, Repr

abbrev Line := List Glyph

namespace Line

/-- Characters in one style.  Line breaks are left out. -/
def ofChars (style : Style) (text : List Char) : Line :=
  (Text.unbroken text).map fun char => { char, style }

def ofText (style : Style) (text : String) : Line :=
  ofChars style text.toList

def placed (text : Line) : Line :=
  text.filter fun glyph => glyph.char ≠ '\n'

end Line

abbrev GlyphRow := Array Glyph

namespace GlyphRow

def paintAt (row : GlyphRow) (index : Nat) (cell : Cell) : Cell :=
  match row[index]? with
  | some glyph => cell.write glyph.char glyph.style
  | none => cell

def paintFrom (row : GlyphRow) (shift column : Nat) (cell : Cell) : Cell :=
  if column < shift then cell else row.paintAt (column - shift) cell

end GlyphRow

inductive Align where
  | left
  | right
  deriving DecidableEq, Repr

/-- The columns left free before a line.  A line that is too long starts at the
left edge either way. -/
def Align.shift (align : Align) (width length : Nat) : Nat :=
  match align with
  | .left => 0
  | .right => width - length

/-- Whether a row at the given distance from the top of an area lies on the screen
as far as the area shows it: its first and its last column do, if it has any. -/
def GlyphRow.fits (screen area : Area) (align : Align) (row : GlyphRow) (index : Nat) : Bool :=
  let first := area.x + align.shift area.width row.size
  let shown := min row.size area.width
  shown = 0 ||
    (screen.contains first (area.y + index) &&
      screen.contains (first + (shown - 1)) (area.y + index))

namespace Picture

/-- Lines from the top of an area, one row each.  They have to lie on the screen. -/
def lines (area : Area) (align : Align) (content : List Line) : Picture :=
  let rows := (content.map fun line => line.placed.toArray).toArray
  let picture := within area fun x y cell =>
    match rows[y - area.y]? with
    | some row => GlyphRow.paintFrom row (align.shift area.width row.size) (x - area.x) cell
    | none => cell
  { picture with
    fits := fun screen =>
      (rows.toList.take area.height).zipIdx.all fun (row, index) =>
        GlyphRow.fits screen area align row index }

/-- Lines from the top of an area, each on a row of one style.  What lies beyond the
screen is left out. -/
def list (area : Area) (style : Style) (content : List (List Char)) : Picture :=
  let rows := (content.map fun text => (Line.ofChars style text).toArray).toArray
  within area fun x y cell =>
    match rows[y - area.y]? with
    | some row => GlyphRow.paintAt row (x - area.x) (cell.restyle style)
    | none => cell

end Picture

end StepLab
