import StepLab.Engine.Basic
import StepLab.Grid.Editor
import StepLab.Language.Kind

/-! # Slots

A slot keeps one language ready for use: its engine and the editor of its source. -/

set_option autoImplicit false

namespace StepLab

inductive Editor where
  | text (source : String)
  | grid (editor : GridEditor)
  deriving DecidableEq

namespace Editor

def ofProgram (isGrid : Bool) (program : Program) : Editor :=
  if isGrid then .grid { grid := program.toGrid } else .text program.toText

def selection : Editor → Option Nat
  | text _ => none
  | grid editor => editor.selection

def isText : Editor → Bool
  | text _ => true
  | grid _ => false

end Editor

/-- The program of a kind in the form in which it is edited: the grid languages
turn a text into a grid. -/
def Kind.shape (k : Kind) (program : Program) : Program :=
  if k.isGrid then .grid program.toGrid else program

structure Slot (L : Language) where
  engine : Engine L
  editor : Editor
  /-- Whether the grid takes the size of its pane when it is next drawn. -/
  needsFit : Bool
  /-- The grid size of the pane, if it has been drawn since the last resize. -/
  fit : Option Dims := none

namespace Slot

def create (o : Options) (k : Kind) (given : Option Program) :
    Logged (Slot (k.language o)) := do
  let source := k.shape (given.getD k.emptyProgram)
  let engine ← Engine.create (k.language o) source o.pace
  return { engine
           editor := .ofProgram k.isGrid source
           needsFit := k.isGrid && given.isNone }

end Slot

structure Slots (o : Options) where
  stunStep : Slot (Kind.stunStep.language o)
  suffolk : Slot (Kind.suffolk.language o)
  wii2d : Slot (Kind.wii2d.language o)
  back : Slot (Kind.back.language o)

namespace Slots

variable {o : Options}

def get (s : Slots o) : (k : Kind) → Slot (k.language o)
  | .stunStep => s.stunStep
  | .suffolk => s.suffolk
  | .wii2d => s.wii2d
  | .back => s.back

def set (s : Slots o) : (k : Kind) → Slot (k.language o) → Slots o
  | .stunStep, slot => { s with stunStep := slot }
  | .suffolk, slot => { s with suffolk := slot }
  | .wii2d, slot => { s with wii2d := slot }
  | .back, slot => { s with back := slot }

@[simp] theorem get_set_self (s : Slots o) (k : Kind) (slot : Slot (k.language o)) :
    (s.set k slot).get k = slot := by
  cases k <;> rfl

theorem get_set_of_ne (s : Slots o) {j k : Kind} (slot : Slot (k.language o))
    (other : j ≠ k) : (s.set k slot).get j = s.get j := by
  cases j <;> cases k <;> first | rfl | exact absurd rfl other

def create (o : Options) (start : Kind) (program : Option Program) : Logged (Slots o) := do
  let given (k : Kind) := if k = start then program else none
  let stunStep ← Slot.create o .stunStep (given .stunStep)
  let suffolk ← Slot.create o .suffolk (given .suffolk)
  let wii2d ← Slot.create o .wii2d (given .wii2d)
  let back ← Slot.create o .back (given .back)
  return { stunStep, suffolk, wii2d, back }

/-- Every grid takes the size of its pane when it is next drawn, and no pane
size is known any more. -/
def invalidate (s : Slots o) : Slots o where
  stunStep := { s.stunStep with fit := none }
  suffolk := { s.suffolk with fit := none }
  wii2d := { s.wii2d with fit := none, needsFit := true }
  back := { s.back with fit := none, needsFit := true }

end Slots

end StepLab
