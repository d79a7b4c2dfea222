import StepLab.Screen.Area
import StepLab.Workbench.Slot

/-! # The workbench

A slot for every language, one of them active.  All actions go to the active engine. -/

set_option autoImplicit false

namespace StepLab

inductive Mode where
  | normal
  | insert
  | confirmReset
  deriving DecidableEq, Repr

structure Workbench (o : Options) where
  slots : Slots o
  active : Kind
  mode : Mode := .normal
  /-- The inside of the program pane when it was last drawn. -/
  programInner : Area := {}
  shouldQuit : Bool := false
  status : String := "Ready!"

namespace Workbench

variable {o : Options}

def create (o : Options) (start : Kind) (program : Option Program) :
    Logged (Workbench o) := do
  let slots ← Slots.create o start program
  return { slots, active := start }

def slot (w : Workbench o) : Slot (w.active.language o) := w.slots.get w.active

def setSlot (w : Workbench o) (slot : Slot (w.active.language o)) : Workbench o :=
  { w with slots := w.slots.set w.active slot }

@[simp] theorem active_setSlot (w : Workbench o) (slot : Slot (w.active.language o)) :
    (w.setSlot slot).active = w.active := rfl

@[simp] theorem slot_setSlot (w : Workbench o) (slot : Slot (w.active.language o)) :
    (w.setSlot slot).slot = slot :=
  Slots.get_set_self w.slots w.active slot

def snapshot (w : Workbench o) : Snapshot := w.slot.engine.snapshot

def program (w : Workbench o) : Program := w.slot.engine.program

def selection (w : Workbench o) : Option Nat := w.slot.editor.selection

def say (w : Workbench o) (status : String) : Workbench o := { w with status }

def dispatch (w : Workbench o) (host : Host) (action : Action) : Logged (Workbench o) := do
  let engine ← w.slot.engine.dispatch host action
  return w.setSlot { w.slot with engine }

def setEditor (w : Workbench o) (editor : Editor) : Workbench o :=
  w.setSlot { w.slot with editor }

def edit (w : Workbench o) (host : Host) (program : Program) : Logged (Workbench o) := do
  let w ← w.dispatch host (.edit program)
  return w.say "Edited (history cleared)"

end Workbench

end StepLab
