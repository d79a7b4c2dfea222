import StepLab.Engine.Snapshot
import StepLab.Pane.Palette
import StepLab.Screen.Block
import StepLab.Screen.Wrap

/-! # The memory pane

The register, and the part of the tape around the pointer that fits.  All cells have the width
of the widest one and a free column on each side. -/

set_option autoImplicit false

namespace StepLab.MemoryPane

/-- A part of the tape: from `first` up to but not including `last`. -/
structure Window where
  first : Nat
  last : Nat
  deriving DecidableEq, Repr

/-- The part of a tape that is shown with room for `capacity` cells: the middle
on the pointer where the ends of the tape allow it. -/
def tapeWindow (length pointer capacity : Nat) : Window :=
  if length ≤ capacity then ⟨0, length⟩
  else
    let shown := max capacity 1
    let first := min (pointer - shown / 2) (length - shown)
    ⟨first, first + shown⟩

def cellText (cell : Int64) : String := toString cell.toInt

def cellWidth (tape : Array Int64) : Nat :=
  let widest := tape.toList.foldl (fun widest cell => max widest (cellText cell).length) 0
  (if tape.isEmpty then 1 else widest) + 2

/-- A text in the middle of a width; an odd space goes to the right. -/
def center (width : Nat) (text : List Char) : List Char :=
  let free := width - text.length
  List.replicate (free / 2) ' ' ++ text ++ List.replicate (free - free / 2) ' '

def usableWidth (paneWidth : Nat) : Nat := paneWidth - 4

def window (view : View) (paneWidth : Nat) : Window :=
  tapeWindow view.tape.size view.pointer
    (max (usableWidth paneWidth / cellWidth view.tape) 1)

def registerLine (view : View) : Line :=
  Line.ofText (.ofFg Palette.muted) "register " ++
    Line.ofText { fg := some Palette.number, bold := true } (cellText view.register)

def pointerLine (view : View) : Line :=
  Line.ofText (.ofFg Palette.muted) "pointer " ++
    Line.ofText (.ofFg Palette.pointer) (toString view.pointer) ++
    Line.ofText (.ofFg Palette.muted) ("  cells " ++ toString view.tape.size)

def tapeCell (view : View) (width index : Nat) : Line :=
  let text := (view.tape[index]?.map fun cell => (cellText cell).toList).getD []
  Line.ofChars
    (if index = view.pointer then .badge Palette.pointer else .ofFg Palette.text)
    (center width text)

def tapeLine (view : View) (w : Window) : Line :=
  let width := cellWidth view.tape
  (List.range' w.first (w.last - w.first)).flatMap (tapeCell view width)

def windowLines (view : View) (w : Window) : List Line :=
  if 0 < w.first || w.last < view.tape.size then
    [Line.ofText (.ofFg Palette.muted)
      ("showing " ++ toString w.first ++ ".." ++ toString w.last)]
  else []

def contentLines (s : Snapshot) (paneWidth : Nat) : List Line :=
  let view := s.state
  let w := window view paneWidth
  (if s.displays.register then [registerLine view] else []) ++
    (if s.displays.tape then [pointerLine view, tapeLine view w] ++ windowLines view w else [])

def draw (area : Area) (s : Snapshot) : Picture :=
  let inner := area.inner.pad 1 1
  let block : Block := { title := " Memory ", style := .ofFg Palette.border }
  let rows := (contentLines s area.width).flatMap (Wrap.rows inner.width)
  .stack [block.draw area, .lines inner .left rows]

end StepLab.MemoryPane
