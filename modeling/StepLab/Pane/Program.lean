import StepLab.Engine.Snapshot
import StepLab.Grid.Basic
import StepLab.Pane.Palette
import StepLab.Screen.Block

/-! # The program pane

A grid with two columns per cell, the instructions of a text, or the source while it is being
typed.  The pane scrolls down just as far as needed to show the row in focus. -/

set_option autoImplicit false

namespace StepLab.ProgramPane

def cellWidth : Nat := 2

structure Content where
  snapshot : Snapshot
  source : Option String := none
  selection : Option Nat := none
  focused : Bool := false

/-- The largest grid that an inner area can show, at least one cell. -/
def gridFit (inner : Area) : Dims where
  rows := max inner.height 1
  cols := max (inner.width / cellWidth) 1

/-- The grid cell under a screen position, as if no row were scrolled away. -/
def cellAt (inner : Area) (d : Dims) (column row : Nat) : Option Nat :=
  if column < inner.x || row < inner.y then none
  else
    let c := (column - inner.x) / cellWidth
    let r := row - inner.y
    if c < d.cols && r < d.rows then some (r * d.cols + c) else none

/-- The first row shown so that the row in focus is the last one or above. -/
def scrollTo (focus visible : Nat) : Nat := focus - (visible - 1)

def cellStyle (executed selected : Bool) (c : Char) : Style :=
  if selected then .badge Palette.selection
  else if executed then .badge Palette.cursor
  else if c = Grid.blankCell then .ofFg Palette.muted
  else if Text.isDigit c then .ofFg Palette.number
  else .ofFg Palette.opcode

def shownGlyph (c : Char) : Char := if c = Grid.blankCell then '·' else c

def gridCell (content : Content) (code : Array Char) (index : Nat) : Line :=
  let c := code[index]?.getD Grid.blankCell
  let executed := content.snapshot.state.cursor = some index
  let selected := content.selection = some index
  [{ char := shownGlyph c, style := cellStyle executed selected c }, { char := ' ' }]

def gridLine (content : Content) (code : Array Char) (d : Dims) (r : Nat) : Line :=
  (List.range d.cols).flatMap fun c => gridCell content code (r * d.cols + c)

def gridLines (content : Content) (d : Dims) : List Line :=
  let code := content.snapshot.state.code.toArray
  (List.range d.rows).map (gridLine content code d)

def gridFocus (content : Content) (d : Dims) : Nat :=
  match content.selection.or content.snapshot.state.cursor with
  | some index => index / max d.cols 1
  | none => 0

/-- Cuts a list into parts of a width, the last one possibly shorter. -/
def chunks {α : Type} (width : Nat) : Nat → List α → List (List α)
  | 0, _ => []
  | _ + 1, [] => []
  | fuel + 1, xs => xs.take width :: chunks width fuel (xs.drop width)

/-- The instructions as cells, with a free one at the end for a cursor behind
the last instruction. -/
def textCells (content : Content) : Line :=
  let view := content.snapshot.state
  (view.code ++ [' ']).zipIdx.map fun (c, i) =>
    { char := c, style := cellStyle (view.cursor = some i) false c }

def textLines (content : Content) (width : Nat) : List Line :=
  let cells := textCells content
  chunks (max width 1) cells.length cells

def textFocus (content : Content) (width : Nat) : Nat :=
  match content.snapshot.state.cursor with
  | some index => index / max width 1
  | none => 0

def sourceLines (source : String) : List Line :=
  let styled := (Text.pieces source.toList).map (Line.ofChars (.ofFg Palette.text))
  let caret : Glyph := { char := ' ', style := .ofBg Palette.text }
  styled.dropLast ++ [styled.getLastD [] ++ [caret]]

def title (content : Content) : String :=
  let name := content.snapshot.name
  match content.source, content.snapshot.state.grid with
  | some _, _ => " " ++ name ++ " [INSERT] "
  | none, some d => " " ++ name ++ " " ++ d.text ++ " "
  | none, none => " " ++ name ++ " "

def contentLines (content : Content) (width : Nat) : List Line :=
  match content.source, content.snapshot.state.grid with
  | some source, _ => sourceLines source
  | none, some d => gridLines content d
  | none, none => textLines content width

def focusLine (content : Content) (width : Nat) : Nat :=
  match content.source, content.snapshot.state.grid with
  | some source, _ => (sourceLines source).length - 1
  | none, some d => gridFocus content d
  | none, none => textFocus content width

def maxOffset : Nat := 65535

def offset (content : Content) (inner : Area) : Nat :=
  min (scrollTo (focusLine content inner.width) (max inner.height 1)) maxOffset

def borderStyle (focused : Bool) : Style :=
  if focused then { fg := some Palette.focusedBorder, bold := true } else .ofFg Palette.border

def draw (area : Area) (content : Content) : Picture :=
  let inner := area.inner
  let block : Block := { title := title content, style := borderStyle content.focused }
  let shown := (contentLines content inner.width).drop (offset content inner)
  .stack [block.draw area, .lines inner .left shown]

end StepLab.ProgramPane
