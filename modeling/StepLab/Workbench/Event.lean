import StepLab.Workbench.Frame

/-! # Events of the workbench

Keys go to the open question or the text being typed if there is one; else to the selected
grid cell, if there is one and the key means something there; else to the control keys. -/

set_option autoImplicit false

namespace StepLab

inductive KeyCode where
  | char (c : Char)
  | up
  | down
  | left
  | right
  | enter
  | escape
  | backspace
  | delete
  | tab
  | other
  deriving DecidableEq, Repr

structure Key where
  code : KeyCode
  control : Bool := false
  deriving DecidableEq, Repr

inductive MouseKind where
  | leftDown
  | rightDown
  | leftUp
  | leftDrag
  | moved
  | scrollDown
  deriving DecidableEq, Repr

inductive Event where
  | key (key : Key)
  | mouse (kind : MouseKind) (column row : Nat)
  | resize (width height : Nat)
  | draw (width height : Nat)
  /-- A frame is drawn and a due tick is delivered. -/
  | tick (width height : Nat)
  deriving DecidableEq, Repr

namespace Workbench

variable {o : Options}

/-! ## The reset question -/

def answer? : KeyCode → Option Bool
  | .char c =>
      if c = 'y' || c = 'Y' then some true
      else if c = 'n' || c = 'N' then some false
      else none
  | .escape => some false
  | _ => none

def confirmKey (w : Workbench o) (now : Nat) (key : Key) : Logged (Workbench o) :=
  match answer? key.code with
  | none => return w
  | some answer => do
      let w ← dispatch { w with mode := .normal } { now, confirm := answer } .reset
      return w.say (if answer then "Reset" else "Reset cancelled")

/-! ## Typing -/

/-- The source after a key, if the key types or erases something. -/
def typed? (source : String) (key : Key) : Option String :=
  match key.code with
  | .enter => some (source.push '\n')
  | .backspace =>
      if source.isEmpty then none else some (String.ofList source.toList.dropLast)
  | .char c => if key.control then none else some (source.push c)
  | _ => none

def insertKey (w : Workbench o) (now : Nat) (key : Key) : Logged (Workbench o) :=
  match w.slot.editor with
  | .grid _ => return { w with mode := .normal }
  | .text source =>
      if key.code = .escape then return { w with mode := .normal, status := "Ready!" }
      else
        match typed? source key with
        | none => return w
        | some source => (w.setEditor (.text source)).edit { now } (.text source)

/-! ## The selected cell -/

def editKey? (key : Key) : Option EditKey :=
  match key.code with
  | .up => some (.arrow .up)
  | .down => some (.arrow .down)
  | .left => some (.arrow .left)
  | .right => some (.arrow .right)
  | .backspace => some .erase
  | .delete => some .erase
  | .escape => some .escape
  | .char c => if key.control then none else some (.char c)
  | _ => none

def gridKey (w : Workbench o) (now : Nat) (editor : GridEditor) (key : EditKey) :
    Logged (Workbench o) :=
  let (editor, outcome) := editor.key key
  let w := w.setEditor (.grid editor)
  match outcome with
  | .changed g => w.edit { now } (.grid g)
  | .selection none => return w.say "Ready!"
  | .selection (some _) => return w
  | .ignored => return w

/-! ## Control keys -/

def stepForward (w : Workbench o) (now : Nat) : Nat → Logged (Workbench o)
  | 0 => return w
  | n + 1 => do
      let w ← w.dispatch { now } .next
      w.stepForward now n

def toggleRun (w : Workbench o) (now : Nat) : Logged (Workbench o) :=
  if w.snapshot.paused then do
    let w ← w.dispatch { now } .run
    return w.say "Running"
  else do
    let w ← w.dispatch { now } .stop
    return w.say "Paused"

def stepBack (w : Workbench o) (now : Nat) : Logged (Workbench o) := do
  let atStart := w.snapshot.step = 0
  let w ← w.dispatch { now } .prev
  return w.say (if atStart then "Already at the first step" else "Stepped backward")

def runFast (w : Workbench o) (now : Nat) : Logged (Workbench o) :=
  if w.snapshot.fastForward then do
    let w ← w.dispatch { now } .fastForward
    return w.say "Fast-forward"
  else return w.say (w.snapshot.name ++ " has no fast-forward")

def startTyping (w : Workbench o) : Workbench o :=
  if w.slot.editor.isText then { w with mode := .insert, status := "Editing" } else w

/-- Selects the executed cell of a grid program, or its first cell. -/
def selectCell (w : Workbench o) : Workbench o :=
  match w.slot.editor with
  | .text _ => w
  | .grid editor =>
      let (editor, _) := editor.select (w.snapshot.state.cursor.getD 0)
      (w.setEditor (.grid editor)).say "Editing cell"

def switchLanguage (w : Workbench o) (now : Nat) : Logged (Workbench o) := do
  let w ← w.dispatch { now } .stop
  let next := w.active.next
  return { w with active := next, status := "Switched to " ++ next.name }

def controlChar (w : Workbench o) (now : Nat) (c : Char) : Logged (Workbench o) :=
  if c = 'q' || c = 'Q' then return { w with shouldQuit := true }
  else if c = ' ' then w.toggleRun now
  else if '1' ≤ c && c ≤ '9' then do
    let n := Text.digitValue c
    let w ← w.stepForward now n
    return w.say ("Stepped forward " ++ toString n ++ " step(s)")
  else if c = 'f' || c = 'F' then w.runFast now
  else if c = 'r' || c = 'R' then return { w with mode := .confirmReset }
  else if c = 'i' || c = 'I' then return w.startTyping
  else return w

def controlKey (w : Workbench o) (now : Nat) (key : Key) : Logged (Workbench o) :=
  match key.code with
  | .char c => w.controlChar now c
  | .right => do
      let w ← w.dispatch { now } .next
      return w.say "Stepped forward"
  | .left => w.stepBack now
  | .enter => return w.selectCell
  | .tab => w.switchLanguage now
  | _ => return w

/-! ## All events -/

def normalKey (w : Workbench o) (now : Nat) (key : Key) : Logged (Workbench o) :=
  match w.slot.editor, w.selection, editKey? key with
  | .grid editor, some _, some k => w.gridKey now editor k
  | _, _, _ => w.controlKey now key

def handleKey (w : Workbench o) (now : Nat) (key : Key) : Logged (Workbench o) :=
  match w.mode with
  | .confirmReset => w.confirmKey now key
  | .insert => w.insertKey now key
  | .normal => w.normalKey now key

def handleMouse (w : Workbench o) (kind : MouseKind) (column row : Nat) : Workbench o :=
  match w.mode, kind, w.slot.editor with
  | .normal, .leftDown, .grid editor =>
      match ProgramPane.cellAt w.programInner editor.grid.dims column row with
      | some cell => w.setEditor (.grid (editor.click cell).1)
      | none => w
  | _, _, _ => w

def resizeRecord (width height : Nat) : Record where
  level := .debug
  component := .workbench
  message := "terminal resized"
  fields := [("width", .number width), ("height", .number height)]

/-- A resize: every grid takes the size of its pane when it is next shown. -/
def handleResize (w : Workbench o) (width height : Nat) : Logged (Workbench o) := do
  Logged.emit (resizeRecord width height)
  return { w with slots := w.slots.invalidate }

def handle (w : Workbench o) (now : Nat) : Event → Logged (Workbench o)
  | .key key => w.handleKey now key
  | .mouse kind column row => return w.handleMouse kind column row
  | .resize width height => w.handleResize width height
  | .draw width height => w.afterDraw { now } width height
  | .tick width height => w.afterTick { now } width height

end Workbench

end StepLab
