import StepLab.Proofs.Engine.Tempo
import StepLab.Proofs.Workbench.Changes

/-! # How far events reach

Between two events the workbench is moved by its handlers, and all of them work on the
active slot alone.  `Stays` says so: the active slot and the mode are the same, and the
slots that are not active are untouched.  `Tends` adds that no slot starts or stops
waiting for the size of its pane.  A key tends the active slot, or leaves a mode for
the normal one, or starts typing, asks the reset question, or pauses the active engine
and goes on to the next language. -/

set_option autoImplicit false

namespace StepLab

def Event.isResize : Event → Bool
  | .resize _ _ => true
  | _ => false

theorem Slots.set_get {o : Options} (s : Slots o) (k : Kind) : s.set k (s.get k) = s := by
  cases k <;> rfl

/-- A resize forgets the size of every pane, and has grids wait for the next one. -/
theorem Slots.get_invalidate {o : Options} (s : Slots o) (k : Kind) :
    s.invalidate.get k =
      { s.get k with needsFit := (s.get k).needsFit || k.isGrid, fit := none } := by
  cases k <;> simp [invalidate, get, Kind.isGrid]

namespace Workbench

variable {o : Options}

structure Stays (w after : Workbench o) : Prop where
  active : after.active = w.active
  mode : after.mode = w.mode
  others : ∀ k, k ≠ w.active → after.slots.get k = w.slots.get k

structure Tends (w after : Workbench o) : Prop extends Stays w after where
  needsFit : ∀ k, (after.slots.get k).needsFit = (w.slots.get k).needsFit

theorem Stays.trans {w middle after : Workbench o} (first : w.Stays middle)
    (second : middle.Stays after) : w.Stays after where
  active := second.active.trans first.active
  mode := second.mode.trans first.mode
  others k other := by
    have still : k ≠ middle.active := first.active ▸ other
    exact (second.others k still).trans (first.others k other)

namespace Tends

variable {w middle after : Workbench o}

theorem refl (w : Workbench o) : w.Tends w :=
  ⟨⟨rfl, rfl, fun _ _ => rfl⟩, fun _ => rfl⟩

theorem trans (first : w.Tends middle) (second : middle.Tends after) : w.Tends after :=
  ⟨first.toStays.trans second.toStays,
    fun k => (second.needsFit k).trans (first.needsFit k)⟩

theorem say (tends : w.Tends after) (status : String) : w.Tends (after.say status) :=
  ⟨⟨tends.active, tends.mode, tends.others⟩, tends.needsFit⟩

end Tends

theorem setSlot_slot (w : Workbench o) : w.setSlot w.slot = w := by
  have same : w.slots.set w.active w.slot = w.slots := Slots.set_get w.slots w.active
  rw [setSlot, same]

theorem stays_setSlot (w : Workbench o) (slot : Slot (w.active.language o)) :
    w.Stays (w.setSlot slot) where
  active := rfl
  mode := rfl
  others _ other := Slots.get_set_of_ne w.slots slot other

/-- What holds of the new active slot and of the other slots holds of all slots. -/
theorem forall_get_setSlot (P : ∀ k, Slot (Kind.language o k) → Prop) (w : Workbench o)
    (slot : Slot (w.active.language o)) (here : P w.active slot)
    (others : ∀ k, k ≠ w.active → P k (w.slots.get k)) (k : Kind) :
    P k ((w.setSlot slot).slots.get k) := by
  by_cases active : k = w.active
  · subst active
    have found : (w.setSlot slot).slots.get w.active = slot := Slots.get_set_self _ _ slot
    rw [found]
    exact here
  · rw [(stays_setSlot w slot).others k active]
    exact others k active

theorem tends_setSlot (w : Workbench o) (slot : Slot (w.active.language o))
    (same : slot.needsFit = w.slot.needsFit) : w.Tends (w.setSlot slot) := by
  refine ⟨stays_setSlot w slot, ?_⟩
  exact forall_get_setSlot (fun k slot => slot.needsFit = (w.slots.get k).needsFit) w slot
    same fun _ _ => rfl

theorem tends_dispatch (w : Workbench o) (host : Host) (action : Action) :
    w.Tends (w.dispatch host action).value :=
  tends_setSlot w _ rfl

theorem tends_setEditor (w : Workbench o) (editor : Editor) : w.Tends (w.setEditor editor) :=
  tends_setSlot w _ rfl

theorem tends_edit (w : Workbench o) (editor : Editor) (host : Host) (program : Program) :
    w.Tends ((w.setEditor editor).edit host program).value := by
  have stored := tends_setEditor w editor
  have installed := tends_dispatch (w.setEditor editor) host (.edit program)
  exact (stored.trans installed).say _

/-! ## Keys -/

theorem tends_gridKey (w : Workbench o) (now : Nat) (editor : GridEditor) (key : EditKey) :
    w.Tends (w.gridKey now editor key).value := by
  unfold gridKey
  cases editor.key key with
  | mk after outcome =>
      cases outcome with
      | ignored => exact tends_setEditor w (.grid after)
      | changed g => exact tends_edit w (.grid after) { now } (.grid g)
      | selection cell =>
          cases cell with
          | none => exact (tends_setEditor w (.grid after)).say _
          | some i => exact tends_setEditor w (.grid after)

theorem tends_stepForward (w : Workbench o) (now n : Nat) :
    w.Tends (w.stepForward now n).value := by
  induction n generalizing w with
  | zero => exact Tends.refl w
  | succ n ih =>
      have first := tends_dispatch w { now } .next
      exact first.trans (ih (w.dispatch { now } .next).value)

theorem tends_toggleRun (w : Workbench o) (now : Nat) : w.Tends (w.toggleRun now).value := by
  unfold toggleRun
  split
  · exact (tends_dispatch w { now } .run).say _
  · exact (tends_dispatch w { now } .stop).say _

theorem tends_runFast (w : Workbench o) (now : Nat) : w.Tends (w.runFast now).value := by
  unfold runFast
  split
  · exact (tends_dispatch w { now } .fastForward).say _
  · exact (Tends.refl w).say _

theorem tends_selectCell (w : Workbench o) : w.Tends w.selectCell := by
  unfold selectCell
  split
  · exact Tends.refl w
  · exact (tends_setEditor w _).say _

/-- All that a key can do to the workbench. -/
inductive KeyEffect (w : Workbench o) : Workbench o → Prop where
  | tended {after : Workbench o} (tends : w.Tends after) : KeyEffect w after
  | left {after : Workbench o} (tends : Tends { w with mode := .normal } after) :
      KeyEffect w after
  | typing (normal : w.mode = .normal) (status : String)
      (isText : w.slot.editor.isText = true) :
      KeyEffect w { w with mode := .insert, status }
  | asking (normal : w.mode = .normal) : KeyEffect w { w with mode := .confirmReset }
  | switched (normal : w.mode = .normal) (host : Host) (next : Kind) (status : String) :
      KeyEffect w { (w.dispatch host .stop).value with active := next, status }

theorem keyEffect_confirmKey (w : Workbench o) (now : Nat) (key : Key) :
    w.KeyEffect (w.confirmKey now key).value := by
  unfold confirmKey
  split
  · exact .tended (Tends.refl w)
  · rename_i answer _
    have reset := tends_dispatch { w with mode := .normal } { now, confirm := answer } .reset
    exact .left (reset.say _)

theorem keyEffect_insertKey (w : Workbench o) (now : Nat) (key : Key) :
    w.KeyEffect (w.insertKey now key).value := by
  unfold insertKey
  split
  · exact .left (Tends.refl _)
  · split
    · exact .left ((Tends.refl _).say "Ready!")
    · split
      · exact .tended (Tends.refl w)
      · exact .tended (tends_edit w _ { now } _)

theorem keyEffect_controlChar (w : Workbench o) (normal : w.mode = .normal) (now : Nat)
    (c : Char) : w.KeyEffect (w.controlChar now c).value := by
  unfold controlChar
  split
  · exact .tended ⟨⟨rfl, rfl, fun _ _ => rfl⟩, fun _ => rfl⟩
  split
  · exact .tended (tends_toggleRun w now)
  split
  · exact .tended ((tends_stepForward w now (Text.digitValue c)).say _)
  split
  · exact .tended (tends_runFast w now)
  split
  · exact .asking normal
  split
  · unfold startTyping
    split
    · rename_i isText
      exact .typing normal "Editing" isText
    · exact .tended (Tends.refl w)
  · exact .tended (Tends.refl w)

theorem keyEffect_controlKey (w : Workbench o) (normal : w.mode = .normal) (now : Nat)
    (key : Key) : w.KeyEffect (w.controlKey now key).value := by
  obtain ⟨code, control⟩ := key
  cases code with
  | char c => exact keyEffect_controlChar w normal now c
  | right => exact .tended ((tends_dispatch w { now } .next).say _)
  | left => exact .tended ((tends_dispatch w { now } .prev).say _)
  | enter => exact .tended (tends_selectCell w)
  | tab => exact .switched normal { now } w.active.next _
  | _ => exact .tended (Tends.refl w)

theorem keyEffect_handleKey (w : Workbench o) (now : Nat) (key : Key) :
    w.KeyEffect (w.handleKey now key).value := by
  unfold handleKey
  split
  · exact keyEffect_confirmKey w now key
  · exact keyEffect_insertKey w now key
  · rename_i normal
    unfold normalKey
    split
    · exact .tended (tends_gridKey w now _ _)
    · exact keyEffect_controlKey w normal now key

namespace KeyEffect

variable {w after : Workbench o}

theorem others (effect : w.KeyEffect after) (k : Kind) (other : k ≠ w.active) :
    after.slots.get k = w.slots.get k := by
  cases effect with
  | tended tends => exact tends.others k other
  | left tends => exact tends.others k other
  | typing _ status isText => rfl
  | asking _ => rfl
  | switched _ host next status => exact (tends_dispatch w host .stop).others k other

theorem needsFit (effect : w.KeyEffect after) (k : Kind) :
    (after.slots.get k).needsFit = (w.slots.get k).needsFit := by
  cases effect with
  | tended tends => exact tends.needsFit k
  | left tends => exact tends.needsFit k
  | typing _ status isText => rfl
  | asking _ => rfl
  | switched _ host next status => exact (tends_dispatch w host .stop).needsFit k

end KeyEffect

/-! ## Mouse, frames and ticks -/

theorem tends_handleMouse (w : Workbench o) (kind : MouseKind) (column row : Nat) :
    w.Tends (w.handleMouse kind column row) := by
  unfold handleMouse
  split
  · split
    · exact tends_setEditor w _
    · exact Tends.refl w
  · exact Tends.refl w

/-- Drawing notes the pane, and for a grid the size that the pane has room for. -/
theorem noteLayout_eq (w : Workbench o) (width height : Nat) :
    ∃ fit, w.noteLayout width height =
      { w.setSlot { w.slot with fit } with
        programInner := (FrameLayout.ofSize width height).program.inner } := by
  unfold noteLayout
  split
  · exact ⟨_, rfl⟩
  · refine ⟨w.slot.fit, ?_⟩
    show _ = { w.setSlot w.slot with
      programInner := (FrameLayout.ofSize width height).program.inner }
    rw [setSlot_slot]

theorem stays_noteLayout (w : Workbench o) (width height : Nat) :
    w.Stays (w.noteLayout width height) := by
  obtain ⟨fit, noted⟩ := noteLayout_eq w width height
  rw [noted]
  exact ⟨rfl, rfl, (stays_setSlot w { w.slot with fit }).others⟩

theorem stays_fitGrid (w : Workbench o) (host : Host) (editor : GridEditor) (d : Dims) :
    w.Stays (w.fitGrid host editor d).value := by
  unfold fitGrid
  rw [Logged.value_bind]
  cases (editor.resize d).value with
  | mk after outcome =>
      have stored := stays_setSlot w { w.slot with editor := .grid after }
      cases outcome with
      | ignored => exact stored
      | selection cell => exact stored
      | changed g =>
          exact stored.trans
            (tends_dispatch (w.setEditor (.grid after)) host (.edit (.grid g))).toStays

theorem stays_applyFit (w : Workbench o) (host : Host) : w.Stays (w.applyFit host).value := by
  unfold applyFit
  split
  · have settled := stays_setSlot w { w.slot with needsFit := false }
    split
    · exact settled.trans (stays_fitGrid _ host _ _)
    · exact settled
  · exact (Tends.refl w).toStays

theorem stays_afterDraw (w : Workbench o) (host : Host) (width height : Nat) :
    w.Stays (w.afterDraw host width height).value :=
  (stays_noteLayout w width height).trans (stays_applyFit _ host)

/-- A frame changes nothing but what is noted of the pane unless the active grid waits. -/
theorem afterDraw_of_settled (w : Workbench o) (settled : w.slot.needsFit = false)
    (host : Host) (width height : Nat) :
    (w.afterDraw host width height).value = w.noteLayout width height := by
  obtain ⟨fit, noted⟩ := noteLayout_eq w width height
  have waits : (w.noteLayout width height).slot.needsFit = false := by
    rw [noted]
    show (w.setSlot { w.slot with fit }).slot.needsFit = false
    rw [slot_setSlot]
    exact settled
  unfold afterDraw applyFit
  rw [waits]
  rfl

theorem tends_pollActive (w : Workbench o) (host : Host) :
    w.Tends (w.pollActive host).value := by
  unfold pollActive
  split
  · exact Tends.refl w
  · exact tends_setSlot w _ rfl

/-- A tick is a frame and then a poll, unless the workbench is about to be left. -/
theorem afterTick_cases (w : Workbench o) (host : Host) (width height : Nat) :
    (w.afterTick host width height).value = (w.afterDraw host width height).value ∨
      (w.afterTick host width height).value =
        ((w.afterDraw host width height).value.pollActive host).value := by
  by_cases leaves : (w.afterDraw host width height).value.shouldQuit
  · left
    simp [afterTick, leaves]
  · right
    simp [afterTick, leaves]

theorem stays_afterTick (w : Workbench o) (host : Host) (width height : Nat) :
    w.Stays (w.afterTick host width height).value := by
  have drawn := stays_afterDraw w host width height
  rcases afterTick_cases w host width height with left | polled
  · rw [left]
    exact drawn
  · rw [polled]
    exact drawn.trans (tends_pollActive _ host).toStays

/-- An event leaves a slot that is not active as it is, but for what a resize marks. -/
theorem get_handle_of_ne_active (w : Workbench o) (now : Nat) (event : Event) (k : Kind)
    (other : k ≠ w.active) :
    (w.handle now event).value.slots.get k =
      if event.isResize then
        { w.slots.get k with needsFit := (w.slots.get k).needsFit || k.isGrid, fit := none }
      else w.slots.get k := by
  cases event with
  | key key => exact (keyEffect_handleKey w now key).others k other
  | mouse kind column row => exact (tends_handleMouse w kind column row).others k other
  | resize width height => exact w.slots.get_invalidate k
  | draw width height => exact (stays_afterDraw w { now } width height).others k other
  | tick width height => exact (stays_afterTick w { now } width height).others k other

end Workbench

/-! ## The pace -/

theorem Slot.Change.pace_eq {L : Language} {slot after : Slot L} (change : slot.Change after) :
    after.engine.pace = slot.engine.pace := by
  cases change with
  | acted host action installs => exact Engine.pace_perform slot.engine host action
  | polled host => exact Engine.pace_obey slot.engine host .poll
  | typed host before source holds => rfl
  | redrawn host before after holds inside => rfl
  | reselected before after holds same inside => rfl
  | laidOut needsFit fit => rfl

theorem Slot.pace_eq_of_changes {L : Language} {slot after : Slot L}
    (changes : Relation.ReflTransGen Change slot after) :
    after.engine.pace = slot.engine.pace := by
  induction changes with
  | refl => rfl
  | tail _ change ih => exact change.pace_eq.trans ih

/-- Every engine keeps the pace that the options give it. -/
theorem Workbench.pace_live (o : Options) (start : Kind) (program : Option Program)
    (events : List (Nat × Event)) (k : Kind) :
    (((create o start program).value.live events).slots.get k).engine.pace = o.pace := by
  rw [Slot.pace_eq_of_changes (leads_live (create o start program).value events k)]
  cases k <;> rfl

end StepLab
