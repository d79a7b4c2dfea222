import StepLab.Engine.Snapshot
import StepLab.Pane.Palette
import StepLab.Screen.Block
import StepLab.Text.Numeral

/-! # The output pane

A scroll position past the last page means the last page, so the largest position always
shows the newest lines. -/

set_option autoImplicit false

namespace StepLab.OutputPane

def newest : Nat := Text.wordMax

def visibleLines (paneHeight : Nat) : Nat := max (paneHeight - 2) 1

def firstLine (scroll total visible : Nat) : Nat :=
  if visible < total then min scroll (total - visible) else 0

/-- The scroll position after drawing: the first line shown; without output it
stays as it is. -/
def scrollAfter (s : Snapshot) (paneHeight scroll : Nat) : Nat :=
  if s.outputLines.isEmpty then scroll
  else firstLine scroll s.outputLines.length (visibleLines paneHeight)

def shownLines (s : Snapshot) (paneHeight scroll : Nat) : List (List Char) :=
  (s.outputLines.drop (scrollAfter s paneHeight scroll)).take (visibleLines paneHeight)

def draw (area : Area) (s : Snapshot) (scroll : Nat) : Picture :=
  let block : Block := { title := " Output ", style := .ofFg Palette.border }
  if s.outputLines.isEmpty then
    let style : Style := .ofFg Palette.muted
    .stack [.fill area style, block.draw area,
      .lines area.inner .left [Line.ofText {} "(no output)"]]
  else
    .stack [block.draw area,
      .list (area.inner.pad 1 0) (.ofFg Palette.text) (shownLines s area.height scroll)]

end StepLab.OutputPane
