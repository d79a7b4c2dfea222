import Mathlib.Logic.Relation
import StepLab.Proofs.Engine.Script
import StepLab.Proofs.Grid.Editor
import StepLab.Workbench.Event

/-! # What events do to slots

Every event of the workbench is made of a few kinds of change to a slot: its engine
performs an action that installs no program or is polled, its source is replaced in
editor and engine at once, its selection moves, or its layout is noted.  Each handler
is taken apart here once; what a change keeps, every event keeps. -/

set_option autoImplicit false

namespace StepLab

open Relation (ReflTransGen)

/-- One change to a slot. -/
inductive Slot.Change {L : Language} (slot : Slot L) : Slot L → Prop where
  | acted (host : Host) (action : Action) (installs : action.installs = none) :
      Change slot { slot with engine := (slot.engine.dispatch host action).value }
  | polled (host : Host) :
      Change slot { slot with engine := (slot.engine.poll host).value.2 }
  | typed (host : Host) (before source : String) (holds : slot.editor = .text before) :
      Change slot { slot with
        editor := .text source
        engine := (slot.engine.dispatch host (.edit (.text source))).value }
  | redrawn (host : Host) (before after : GridEditor) (holds : slot.editor = .grid before)
      (inside : before.Inside → after.Inside) :
      Change slot { slot with
        editor := .grid after
        engine := (slot.engine.dispatch host (.edit (.grid after.grid))).value }
  | reselected (before after : GridEditor) (holds : slot.editor = .grid before)
      (same : after.grid = before.grid) (inside : before.Inside → after.Inside) :
      Change slot { slot with editor := .grid after }
  | laidOut (needsFit : Bool) (fit : Option Dims) :
      Change slot { slot with needsFit, fit }

theorem Slots.set_set {o : Options} (s : Slots o) (k : Kind)
    (first second : Slot (k.language o)) : (s.set k first).set k second = s.set k second := by
  cases k <;> rfl

namespace Workbench

variable {o : Options}

/-- Every slot goes over into its counterpart by changes. -/
def Leads (w after : Workbench o) : Prop :=
  ∀ k, ReflTransGen Slot.Change (w.slots.get k) (after.slots.get k)

theorem Leads.refl (w : Workbench o) : w.Leads w :=
  fun _ => .refl

theorem Leads.trans {w middle after : Workbench o} (first : w.Leads middle)
    (second : middle.Leads after) : w.Leads after :=
  fun k => (first k).trans (second k)

/-! ## Replacing the active slot -/

theorem leads_setSlot (w : Workbench o) (slot : Slot (w.active.language o))
    (changes : ReflTransGen Slot.Change w.slot slot) : w.Leads (w.setSlot slot) := by
  intro k
  by_cases here : k = w.active
  · subst here
    have found : (w.setSlot slot).slots.get w.active = slot := Slots.get_set_self _ _ slot
    rw [found]
    exact changes
  · have kept : (w.setSlot slot).slots.get k = w.slots.get k :=
      Slots.get_set_of_ne w.slots slot here
    rw [kept]

theorem leads_setSlot_of_change (w : Workbench o) (slot : Slot (w.active.language o))
    (change : w.slot.Change slot) : w.Leads (w.setSlot slot) :=
  leads_setSlot w slot (.single change)

theorem setSlot_setSlot (w : Workbench o) (first second : Slot (w.active.language o)) :
    (w.setSlot first).setSlot second = w.setSlot second := by
  have slots : ((w.setSlot first).setSlot second).slots = (w.setSlot second).slots :=
    Slots.set_set w.slots w.active first second
  show { w with slots := ((w.setSlot first).setSlot second).slots } = _
  rw [slots]
  rfl

theorem leads_dispatch (w : Workbench o) (host : Host) (action : Action)
    (installs : action.installs = none) : w.Leads (w.dispatch host action).value :=
  leads_setSlot_of_change w _ (.acted host action installs)

theorem value_dispatch_setEditor (w : Workbench o) (editor : Editor) (host : Host)
    (action : Action) :
    ((w.setEditor editor).dispatch host action).value =
      w.setSlot { w.slot with
        editor
        engine := (w.slot.engine.dispatch host action).value } := by
  have slot : (w.setEditor editor).slot = { w.slot with editor } := slot_setSlot w _
  show (w.setEditor editor).setSlot
    { (w.setEditor editor).slot with
      engine := ((w.setEditor editor).slot.engine.dispatch host action).value } = _
  rw [slot]
  exact setSlot_setSlot w _ _

theorem leads_setEditor (w : Workbench o) (before after : GridEditor)
    (holds : w.slot.editor = .grid before) (same : after.grid = before.grid)
    (inside : before.Inside → after.Inside) : w.Leads (w.setEditor (.grid after)) :=
  leads_setSlot_of_change w _ (.reselected before after holds same inside)

theorem leads_redraw (w : Workbench o) (host : Host) (before after : GridEditor)
    (holds : w.slot.editor = .grid before) (inside : before.Inside → after.Inside) :
    w.Leads ((w.setEditor (.grid after)).dispatch host (.edit (.grid after.grid))).value := by
  rw [value_dispatch_setEditor]
  exact leads_setSlot_of_change w _ (.redrawn host before after holds inside)

/-- What an honest answer of the grid editor asks for: a changed grid goes to the
engine, anything else stays in the editor. -/
theorem leads_answer (w : Workbench o) (host : Host) (before : GridEditor)
    (answer : GridEditor × EditOutcome) (holds : w.slot.editor = .grid before)
    (honest : GridEditor.Honest before answer) :
    w.Leads (match answer.2 with
      | .changed g => ((w.setEditor (.grid answer.1)).dispatch host (.edit (.grid g))).value
      | _ => w.setEditor (.grid answer.1)) := by
  obtain ⟨after, outcome⟩ := answer
  obtain ⟨reports, inside⟩ := honest
  cases outcome with
  | ignored =>
      have same : after.grid = before.grid := congrArg GridEditor.grid reports
      exact leads_setEditor w before after holds same inside
  | selection cell => exact leads_setEditor w before after holds reports.1 inside
  | changed g =>
      have grid : after.grid = g := reports
      subst grid
      exact leads_redraw w host before after holds inside

/-! ## Keys -/

theorem leads_confirmKey (w : Workbench o) (now : Nat) (key : Key) :
    w.Leads (w.confirmKey now key).value := by
  unfold confirmKey
  split
  · exact Leads.refl w
  · rename_i answer _
    exact leads_dispatch { w with mode := .normal } { now, confirm := answer } .reset rfl

theorem leads_insertKey (w : Workbench o) (now : Nat) (key : Key) :
    w.Leads (w.insertKey now key).value := by
  unfold insertKey
  split
  · exact Leads.refl w
  · rename_i before holds
    split
    · exact Leads.refl w
    · split
      · exact Leads.refl w
      · rename_i source _
        have replaced := value_dispatch_setEditor w (.text source) { now } (.edit (.text source))
        show w.Leads ((w.setEditor (.text source)).dispatch { now } (.edit (.text source))).value
        rw [replaced]
        exact leads_setSlot_of_change w _ (.typed { now } before source holds)

theorem leads_gridKey (w : Workbench o) (now : Nat) (editor : GridEditor) (key : EditKey)
    (holds : w.slot.editor = .grid editor) : w.Leads (w.gridKey now editor key).value := by
  have answered := leads_answer w { now } editor _ holds (GridEditor.honest_key editor key)
  unfold gridKey
  cases answer : editor.key key with
  | mk after outcome =>
      rw [answer] at answered
      cases outcome with
      | ignored => exact answered
      | selection cell =>
          cases cell with
          | none => exact answered
          | some i => exact answered
      | changed g => exact answered

theorem leads_stepForward (w : Workbench o) (now n : Nat) :
    w.Leads (w.stepForward now n).value := by
  induction n generalizing w with
  | zero => exact Leads.refl w
  | succ n ih =>
      have first := leads_dispatch w { now } .next rfl
      exact first.trans (ih (w.dispatch { now } .next).value)

theorem leads_toggleRun (w : Workbench o) (now : Nat) : w.Leads (w.toggleRun now).value := by
  unfold toggleRun
  split
  · exact leads_dispatch w { now } .run rfl
  · exact leads_dispatch w { now } .stop rfl

theorem leads_runFast (w : Workbench o) (now : Nat) : w.Leads (w.runFast now).value := by
  unfold runFast
  split
  · exact leads_dispatch w { now } .fastForward rfl
  · exact Leads.refl w

theorem leads_startTyping (w : Workbench o) : w.Leads w.startTyping := by
  unfold startTyping
  split
  · exact Leads.refl w
  · exact Leads.refl w

theorem leads_selectCell (w : Workbench o) : w.Leads w.selectCell := by
  unfold selectCell
  split
  · exact Leads.refl w
  · rename_i editor holds
    exact leads_setEditor w editor _ holds (GridEditor.grid_select editor _)
      (GridEditor.honest_select editor _).inside

theorem leads_controlChar (w : Workbench o) (now : Nat) (c : Char) :
    w.Leads (w.controlChar now c).value := by
  unfold controlChar
  split
  · exact Leads.refl w
  split
  · exact leads_toggleRun w now
  split
  · exact leads_stepForward w now (Text.digitValue c)
  split
  · exact leads_runFast w now
  split
  · exact Leads.refl w
  split
  · exact leads_startTyping w
  · exact Leads.refl w

theorem leads_stepBack (w : Workbench o) (now : Nat) : w.Leads (w.stepBack now).value :=
  leads_dispatch w { now } .prev rfl

theorem leads_switchLanguage (w : Workbench o) (now : Nat) :
    w.Leads (w.switchLanguage now).value :=
  leads_dispatch w { now } .stop rfl

theorem leads_controlKey (w : Workbench o) (now : Nat) (key : Key) :
    w.Leads (w.controlKey now key).value := by
  obtain ⟨code, control⟩ := key
  cases code with
  | char c => exact leads_controlChar w now c
  | right => exact leads_dispatch w { now } .next rfl
  | left => exact leads_stepBack w now
  | enter => exact leads_selectCell w
  | tab => exact leads_switchLanguage w now
  | _ => exact Leads.refl w

theorem leads_handleKey (w : Workbench o) (now : Nat) (key : Key) :
    w.Leads (w.handleKey now key).value := by
  unfold handleKey
  split
  · exact leads_confirmKey w now key
  · exact leads_insertKey w now key
  · unfold normalKey
    split
    · rename_i editor _ k holds _ _
      exact leads_gridKey w now editor k holds
    · exact leads_controlKey w now key

/-! ## Everything else -/

theorem leads_handleMouse (w : Workbench o) (kind : MouseKind) (column row : Nat) :
    w.Leads (w.handleMouse kind column row) := by
  unfold handleMouse
  split
  · rename_i editor _ holds
    split
    · rename_i cell _
      exact leads_setEditor w editor _ holds (GridEditor.grid_click editor cell)
        (GridEditor.honest_click editor cell).inside
    · exact Leads.refl w
  · exact Leads.refl w

theorem leads_handleResize (w : Workbench o) (width height : Nat) :
    w.Leads (w.handleResize width height).value := by
  intro k
  cases k with
  | stunStep => exact .single (.laidOut _ none)
  | suffolk => exact .single (.laidOut _ none)
  | wii2d => exact .single (.laidOut true none)
  | back => exact .single (.laidOut true none)

theorem leads_noteLayout (w : Workbench o) (width height : Nat) :
    w.Leads (w.noteLayout width height) := by
  unfold noteLayout
  split
  · exact leads_setSlot_of_change
      { w with programInner := (FrameLayout.ofSize width height).program.inner } _
      (.laidOut _ _)
  · exact Leads.refl w

theorem leads_fitGrid (w : Workbench o) (host : Host) (editor : GridEditor) (d : Dims)
    (holds : w.slot.editor = .grid editor) : w.Leads (w.fitGrid host editor d).value := by
  have answered := leads_answer w host editor _ holds (GridEditor.honest_resize editor d)
  unfold fitGrid
  rw [Logged.value_bind]
  cases answer : (editor.resize d).value with
  | mk after outcome =>
      rw [answer] at answered
      cases outcome with
      | ignored => exact answered
      | selection cell => exact answered
      | changed g => exact answered

theorem leads_applyFit (w : Workbench o) (host : Host) : w.Leads (w.applyFit host).value := by
  unfold applyFit
  split
  · rename_i d _ _
    have settled : w.Leads (w.setSlot { w.slot with needsFit := false }) :=
      leads_setSlot_of_change w _ (.laidOut false w.slot.fit)
    split
    · rename_i editor holds
      have still : (w.setSlot { w.slot with needsFit := false }).slot.editor = .grid editor := by
        rw [slot_setSlot]
        exact holds
      exact settled.trans (leads_fitGrid _ host editor d still)
    · exact settled
  · exact Leads.refl w

theorem leads_afterDraw (w : Workbench o) (host : Host) (width height : Nat) :
    w.Leads (w.afterDraw host width height).value :=
  (leads_noteLayout w width height).trans (leads_applyFit _ host)

theorem leads_pollActive (w : Workbench o) (host : Host) :
    w.Leads (w.pollActive host).value := by
  unfold pollActive
  split
  · exact Leads.refl w
  · exact leads_setSlot_of_change w _ (.polled host)

theorem leads_afterTick (w : Workbench o) (host : Host) (width height : Nat) :
    w.Leads (w.afterTick host width height).value := by
  have drawn := leads_afterDraw w host width height
  by_cases leaves : (w.afterDraw host width height).value.shouldQuit
  · simpa [afterTick, leaves] using drawn
  · simpa [afterTick, leaves] using drawn.trans (leads_pollActive _ host)

/-- Whatever the event, every slot is changed only in the ways listed above. -/
theorem leads_handle (w : Workbench o) (now : Nat) (event : Event) :
    w.Leads (w.handle now event).value := by
  cases event with
  | key key => exact leads_handleKey w now key
  | mouse kind column row => exact leads_handleMouse w kind column row
  | resize width height => exact leads_handleResize w width height
  | draw width height => exact leads_afterDraw w { now } width height
  | tick width height => exact leads_afterTick w { now } width height

/-- The workbench after a list of events, each at its time. -/
def live (w : Workbench o) : List (Nat × Event) → Workbench o
  | [] => w
  | (now, event) :: rest => (w.handle now event).value.live rest

theorem leads_live (w : Workbench o) (events : List (Nat × Event)) :
    w.Leads (w.live events) := by
  induction events generalizing w with
  | nil => exact Leads.refl w
  | cons entry rest ih =>
      obtain ⟨now, event⟩ := entry
      exact (leads_handle w now event).trans (ih _)

end Workbench

end StepLab
