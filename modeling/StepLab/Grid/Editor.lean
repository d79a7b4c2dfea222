import StepLab.Grid.Reflow
import StepLab.Grid.Torus
import StepLab.Text.Quoted

/-! # The grid editor

Keys act on the selected cell and do nothing without one.  Every operation answers what it
changed. -/

set_option autoImplicit false

namespace StepLab

inductive EditKey where
  | arrow (direction : Direction)
  | char (c : Char)
  | erase
  | escape
  deriving DecidableEq, Repr

inductive EditOutcome where
  | ignored
  | selection (cell : Option Nat)
  | changed (grid : Grid)
  deriving DecidableEq

structure GridEditor where
  grid : Grid
  selection : Option Nat := none
  deriving DecidableEq

namespace GridEditor

def choose (ed : GridEditor) (cell : Option Nat) : GridEditor × EditOutcome :=
  ({ ed with selection := cell }, .selection cell)

/-- Selects a cell of the grid, or deselects it if it is the selected one. -/
def click (ed : GridEditor) (i : Nat) : GridEditor × EditOutcome :=
  if ed.grid.dims.area ≤ i then (ed, .ignored)
  else ed.choose (if ed.selection = some i then none else some i)

def select (ed : GridEditor) (i : Nat) : GridEditor × EditOutcome :=
  if ed.grid.dims.area ≤ i then (ed, .ignored) else ed.choose (some i)

def deselect (ed : GridEditor) : GridEditor × EditOutcome :=
  ed.choose none

def install (ed : GridEditor) (g : Grid) : GridEditor × EditOutcome :=
  ({ ed with grid := g }, .changed g)

/-- Writes a cell; writing what is there already changes nothing. -/
def write (ed : GridEditor) (i : Nat) (c : Char) : GridEditor × EditOutcome :=
  if ed.grid.get? i = some c then (ed, .ignored) else ed.install (ed.grid.set i c)

/-- Moves the selection from a cell to its neighbour.  A selected cell lies in
the grid, so the grid has cells and the move has a target. -/
def moveFrom (ed : GridEditor) (i : Nat) (direction : Direction) :
    GridEditor × EditOutcome :=
  match ed.grid.dims.move i direction.velocity with
  | .ok cell => ed.choose (some cell)
  | .error _ => (ed, .ignored)

def keyAt (ed : GridEditor) (i : Nat) : EditKey → GridEditor × EditOutcome
  | .escape => ed.deselect
  | .arrow direction => ed.moveFrom i direction
  | .char c => if Text.isControl c then (ed, .ignored) else ed.write i c
  | .erase => ed.write i Grid.blankCell

def key (ed : GridEditor) (k : EditKey) : GridEditor × EditOutcome :=
  match ed.selection with
  | none => (ed, .ignored)
  | some i => ed.keyAt i k

def selectionWithin (ed : GridEditor) (d : Dims) : Option Nat :=
  ed.selection.filter fun i => i < d.area

/-- Resizes the grid; a selection outside the new grid is dropped. -/
def resize (ed : GridEditor) (d : Dims) : Logged (GridEditor × EditOutcome) :=
  if d = ed.grid.dims then return (ed, .ignored)
  else do
    let g ← ed.grid.reflow d
    return ({ grid := g, selection := ed.selectionWithin d }, .changed g)

def load (_ed : GridEditor) (g : Grid) : GridEditor × EditOutcome :=
  ({ grid := g, selection := none }, .changed g)

end GridEditor

end StepLab
