import StepLab.Pane.Memory
import StepLab.Pane.Output
import StepLab.Pane.Program
import StepLab.Pane.Status
import StepLab.Workbench.Basic

/-! # Frames of the workbench

Drawing a frame tells the workbench the size of its program pane; a grid that waits for it
takes that size, once. -/

set_option autoImplicit false

namespace StepLab

structure FrameLayout where
  program : Area
  side : Area
  bar : Area
  deriving DecidableEq, Repr

def FrameLayout.ofSize (width height : Nat) : FrameLayout :=
  let (main, bar) := (Area.bounded 0 0 width height).splitLastRow
  let (program, side) := main.splitColumns 60
  { program, side, bar }

namespace Workbench

variable {o : Options}

def sidePicture (s : Snapshot) (area : Area) : Picture :=
  let memory := s.displays.tape || s.displays.register
  if memory && s.displays.output then
    let (upper, lower) := area.splitRows 50
    .stack [MemoryPane.draw upper s, OutputPane.draw lower s OutputPane.newest]
  else if s.displays.output then OutputPane.draw area s OutputPane.newest
  else MemoryPane.draw area s

def typedSource (w : Workbench o) : Option String :=
  match w.mode, w.slot.editor with
  | .insert, .text source => some source
  | _, _ => none

def openQuestion (w : Workbench o) : Option String :=
  if w.mode = .confirmReset then some Action.resetQuestion else none

def picture (w : Workbench o) (width height : Nat) : Picture :=
  let layout := FrameLayout.ofSize width height
  let s := w.snapshot
  .stack [
    ProgramPane.draw layout.program
      { snapshot := s, source := w.typedSource, selection := w.selection, focused := true },
    sidePicture s layout.side,
    StatusBar.draw layout.bar s
      { message := w.status, question := w.openQuestion, inserting := w.mode = .insert }]

/-- Remembers the program pane of a screen, and the grid size it has room for if
the active program is a grid. -/
def noteLayout (w : Workbench o) (width height : Nat) : Workbench o :=
  let inner := (FrameLayout.ofSize width height).program.inner
  let noted := { w with programInner := inner }
  if w.active.isGrid then
    noted.setSlot { noted.slot with fit := some (ProgramPane.gridFit inner) }
  else noted

def fitRecord (k : Kind) (d : Dims) : Record where
  level := .info
  component := .workbench
  message := "grid re-flowed to fit the pane"
  fields := [("language", .plain k.name), ("dims", .plain d.text)]

def fitGrid (w : Workbench o) (host : Host) (editor : GridEditor) (d : Dims) :
    Logged (Workbench o) := do
  let (editor, outcome) ← editor.resize d
  let w := w.setEditor (.grid editor)
  match outcome with
  | .changed g => do
      Logged.emit (fitRecord w.active d)
      w.dispatch host (.edit (.grid g))
  | _ => return w

def applyFit (w : Workbench o) (host : Host) : Logged (Workbench o) :=
  match w.slot.needsFit, w.slot.fit with
  | true, some d =>
      let settled := w.setSlot { w.slot with needsFit := false }
      match w.slot.editor with
      | .grid editor => settled.fitGrid host editor d
      | .text _ => return settled
  | _, _ => return w

def afterDraw (w : Workbench o) (host : Host) (width height : Nat) : Logged (Workbench o) :=
  (w.noteLayout width height).applyFit host

/-- Delivers a due tick to the active engine.  An open question holds it back. -/
def pollActive (w : Workbench o) (host : Host) : Logged (Workbench o) :=
  if w.mode = .confirmReset then return w
  else do
    let (_, engine) ← w.slot.engine.poll host
    return w.setSlot { w.slot with engine }

def afterTick (w : Workbench o) (host : Host) (width height : Nat) : Logged (Workbench o) := do
  let w ← w.afterDraw host width height
  if w.shouldQuit then return w else w.pollActive host

end Workbench

end StepLab
