import StepLab.Proofs.Grid.Reflow
import StepLab.Proofs.Workbench.Agreement
import StepLab.Proofs.Workbench.Effects

/-! # A grid takes one size

Resizing a grid loses what does not fit, so it must not pass through sizes it is never
shown at.  A resize only marks the grids.  The mark stays until a frame shows the grid,
and that frame measures its own pane before it brings the grid to size: of all resizes
and of all frames for other languages in between, nothing is left.  The frame takes the
mark away, so frames after it keep the grid until the next resize. -/

set_option autoImplicit false

namespace StepLab

/-- The size of the frame that an event draws. -/
def Event.frame? : Event → Option (Nat × Nat)
  | .draw width height => some (width, height)
  | .tick width height => some (width, height)
  | _ => none

def Editor.grid? : Editor → Option Grid
  | .text _ => none
  | .grid editor => some editor.grid

theorem Editor.eq_grid_of_grid? {editor : Editor} {g : Grid} (holds : editor.grid? = some g) :
    ∃ gridEditor, editor = .grid gridEditor ∧ gridEditor.grid = g := by
  cases editor with
  | text source => contradiction
  | grid gridEditor => exact ⟨gridEditor, rfl, Option.some.inj holds⟩

namespace Workbench

variable {o : Options}

/-- No frame is drawn while the slot is active, and no key press changes its grid. -/
def Spares (w : Workbench o) (k : Kind) : List (Nat × Event) → Prop
  | [] => True
  | (now, event) :: rest =>
      (event.frame?.isSome = true → w.active ≠ k) ∧
      (∀ key, event = .key key →
        ((w.handle now event).value.slots.get k).editor.grid? =
          (w.slots.get k).editor.grid?) ∧
      (w.handle now event).value.Spares k rest

/-! ## Until the grid is shown -/

theorem grid?_handleMouse (w : Workbench o) (kind : MouseKind) (column row : Nat) (k : Kind) :
    ((w.handleMouse kind column row).slots.get k).editor.grid? =
      (w.slots.get k).editor.grid? := by
  unfold handleMouse
  split
  · rename_i editor _ holds
    split
    · rename_i cell _
      refine forall_get_setSlot
        (fun k slot => slot.editor.grid? = (w.slots.get k).editor.grid?) w _ ?_ (fun _ _ => rfl) k
      show some (editor.click cell).1.grid = w.slot.editor.grid?
      rw [GridEditor.grid_click, holds]
      rfl
    · rfl
  · rfl

theorem grid?_handle_of_spared (w : Workbench o) (k : Kind) (now : Nat) (event : Event)
    (undrawn : event.frame?.isSome = true → w.active ≠ k)
    (unedited : ∀ key, event = .key key →
      ((w.handle now event).value.slots.get k).editor.grid? = (w.slots.get k).editor.grid?) :
    ((w.handle now event).value.slots.get k).editor.grid? = (w.slots.get k).editor.grid? := by
  by_cases here : k = w.active
  · cases event with
    | key key => exact unedited key rfl
    | mouse kind column row => exact grid?_handleMouse w kind column row k
    | resize width height =>
        show (w.slots.invalidate.get k).editor.grid? = _
        rw [w.slots.get_invalidate k]
    | draw width height => exact absurd here.symm (undrawn rfl)
    | tick width height => exact absurd here.symm (undrawn rfl)
  · rw [get_handle_of_ne_active w now event k here]
    split
    · rfl
    · rfl

/-- A slot that is not shown comes to wait by a resize, and goes on waiting. -/
theorem needsFit_handle_of_undrawn (w : Workbench o) (k : Kind) (now : Nat) (event : Event)
    (undrawn : event.frame?.isSome = true → w.active ≠ k) :
    ((w.handle now event).value.slots.get k).needsFit =
      ((w.slots.get k).needsFit || (event.isResize && k.isGrid)) := by
  by_cases here : k = w.active
  · cases event with
    | key key =>
        show _ = ((w.slots.get k).needsFit || (false && k.isGrid))
        rw [Bool.false_and, Bool.or_false]
        exact (keyEffect_handleKey w now key).needsFit k
    | mouse kind column row =>
        show _ = ((w.slots.get k).needsFit || (false && k.isGrid))
        rw [Bool.false_and, Bool.or_false]
        exact (tends_handleMouse w kind column row).needsFit k
    | resize width height =>
        rw [Event.isResize, Bool.true_and]
        exact congrArg Slot.needsFit (w.slots.get_invalidate k)
    | draw width height => exact absurd here.symm (undrawn rfl)
    | tick width height => exact absurd here.symm (undrawn rfl)
  · rw [get_handle_of_ne_active w now event k here]
    cases event.isResize with
    | true => simp
    | false => simp

theorem live_of_spares (w : Workbench o) (k : Kind) (events : List (Nat × Event))
    (spares : w.Spares k events) :
    ((w.live events).slots.get k).editor.grid? = (w.slots.get k).editor.grid? ∧
      ((w.live events).slots.get k).needsFit =
        ((w.slots.get k).needsFit || (events.any (·.2.isResize) && k.isGrid)) := by
  induction events generalizing w with
  | nil => simp [live]
  | cons entry rest ih =>
      obtain ⟨now, event⟩ := entry
      obtain ⟨undrawn, unedited, spared⟩ := spares
      obtain ⟨grid, waits⟩ := ih (w.handle now event).value spared
      constructor
      · exact grid.trans (grid?_handle_of_spared w k now event undrawn unedited)
      · rw [needsFit_handle_of_undrawn w k now event undrawn] at waits
        rw [live, waits, List.any_cons, Bool.and_or_distrib_right, Bool.or_assoc]

/-! ## The frame that shows it -/

theorem value_fitGrid_of_same_size (w : Workbench o) (host : Host) (editor : GridEditor)
    (d : Dims) (same : d = editor.grid.dims) :
    (w.fitGrid host editor d).value = w.setEditor (.grid editor) := by
  rw [fitGrid, GridEditor.resize, if_pos same]
  rfl

theorem value_fitGrid_of_other_size (w : Workbench o) (host : Host) (editor : GridEditor)
    (d : Dims) (other : d ≠ editor.grid.dims) :
    (w.fitGrid host editor d).value =
      w.setSlot { w.slot with
        editor := .grid { grid := editor.grid.resized d, selection := editor.selectionWithin d }
        engine := Engine.fresh (w.active.language o) (.grid (editor.grid.resized d))
          w.slot.engine.pace } := by
  have resized : (editor.resize d).value =
      ({ grid := editor.grid.resized d, selection := editor.selectionWithin d },
        .changed (editor.grid.resized d)) := by
    rw [GridEditor.resize, if_neg other]
    rfl
  generalize editor.grid.resized d = g at resized ⊢
  have edited : (w.slot.engine.dispatch host (.edit (.grid g))).value =
      Engine.fresh (w.active.language o) (.grid g) w.slot.engine.pace := rfl
  have stored := value_dispatch_setEditor w
    (.grid { grid := g, selection := editor.selectionWithin d }) host (.edit (.grid g))
  rw [edited] at stored
  rw [fitGrid, Logged.value_bind, resized]
  exact stored

theorem value_afterDraw_of_pending (w : Workbench o) (host : Host) (width height : Nat)
    (editor : GridEditor) (holds : w.slot.editor = .grid editor)
    (isGrid : w.active.isGrid = true) (pending : w.slot.needsFit = true) :
    let inner := (FrameLayout.ofSize width height).program.inner
    let d := ProgramPane.gridFit inner
    (w.afterDraw host width height).value =
      (fitGrid (setSlot { w with programInner := inner }
        { w.slot with needsFit := false, fit := some d }) host editor d).value := by
  intro inner d
  let noted : Workbench o :=
    setSlot { w with programInner := inner } { w.slot with fit := some d }
  have layout : w.noteLayout width height = noted := by
    rw [noteLayout, if_pos isGrid]
    rfl
  have slot : noted.slot = { w.slot with fit := some d } := slot_setSlot _ _
  have settled : noted.setSlot { w.slot with needsFit := false, fit := some d } =
      setSlot { w with programInner := inner }
        { w.slot with needsFit := false, fit := some d } := setSlot_setSlot _ _ _
  rw [afterDraw, layout, ← settled, applyFit, slot]
  simp only [pending, holds]

/-- The frame brings a grid that waits to the size of its own pane.  The engine starts
over with the new grid, or stays as it is when the size was right already. -/
theorem get_afterDraw_of_pending (w : Workbench o) (host : Host) (width height : Nat)
    (editor : GridEditor) (holds : w.slot.editor = .grid editor)
    (isGrid : w.active.isGrid = true) (pending : w.slot.needsFit = true) :
    let d := ProgramPane.gridFit (FrameLayout.ofSize width height).program.inner
    let after := (w.afterDraw host width height).value.slots.get w.active
    after.editor.grid? = some (editor.grid.resized d) ∧ after.needsFit = false ∧
      (d = editor.grid.dims → after.engine = w.slot.engine) ∧
      (d ≠ editor.grid.dims → after.engine =
        Engine.fresh (w.active.language o) (.grid (editor.grid.resized d))
          w.slot.engine.pace) := by
  intro d after
  let settled : Workbench o :=
    setSlot { w with programInner := (FrameLayout.ofSize width height).program.inner }
      { w.slot with needsFit := false, fit := some d }
  have drawn : (w.afterDraw host width height).value = (settled.fitGrid host editor d).value :=
    value_afterDraw_of_pending w host width height editor holds isGrid pending
  have slot : settled.slot = { w.slot with needsFit := false, fit := some d } :=
    slot_setSlot _ _
  by_cases same : d = editor.grid.dims
  · have kept : after = { w.slot with
        needsFit := false, fit := some d, editor := .grid editor } := by
      show (w.afterDraw host width height).value.slots.get w.active = _
      rw [drawn, value_fitGrid_of_same_size settled host editor d same, setEditor, slot]
      exact Slots.get_set_self _ _ _
    rw [kept, same, Grid.resized_self]
    exact ⟨rfl, rfl, fun _ => rfl, fun other => absurd rfl other⟩
  · have refit : after = { w.slot with
        needsFit := false
        fit := some d
        editor := .grid { grid := editor.grid.resized d, selection := editor.selectionWithin d }
        engine := Engine.fresh (w.active.language o) (.grid (editor.grid.resized d))
          w.slot.engine.pace } := by
      show (w.afterDraw host width height).value.slots.get w.active = _
      rw [drawn, value_fitGrid_of_other_size settled host editor d same, slot]
      exact Slots.get_set_self _ _ _
    rw [refit]
    exact ⟨rfl, rfl, fun equal => absurd equal same, fun _ => rfl⟩

theorem get_pollActive (w : Workbench o) (host : Host) (k : Kind) :
    ∃ engine, (w.pollActive host).value.slots.get k = { w.slots.get k with engine } := by
  unfold pollActive
  split
  · exact ⟨_, rfl⟩
  · exact forall_get_setSlot (fun k slot => ∃ engine, slot = { w.slots.get k with engine }) w _
      ⟨_, rfl⟩ (fun _ _ => ⟨_, rfl⟩) k

/-- A frame that is followed by a poll leaves the slots of the frame, engines apart. -/
theorem get_handle_of_frame (w : Workbench o) (k : Kind) (now : Nat) (event : Event)
    (width height : Nat) (draws : event.frame? = some (width, height)) :
    ∃ engine, (w.handle now event).value.slots.get k =
      { (w.afterDraw { now } width height).value.slots.get k with engine } := by
  cases event with
  | key key => contradiction
  | mouse kind column row => contradiction
  | resize width height => contradiction
  | draw width height =>
      cases draws
      exact ⟨_, rfl⟩
  | tick width height =>
      cases draws
      show ∃ engine, (w.afterTick { now } width height).value.slots.get k = _
      rcases afterTick_cases w { now } width height with left | polled
      · rw [left]
        exact ⟨_, rfl⟩
      · rw [polled]
        exact get_pollActive _ { now } k

/-! ## After the grid was shown -/

theorem get_noteLayout (w : Workbench o) (width height : Nat) (k : Kind) :
    ∃ fit, (w.noteLayout width height).slots.get k = { w.slots.get k with fit } := by
  obtain ⟨fit, noted⟩ := noteLayout_eq w width height
  rw [noted]
  exact forall_get_setSlot (fun k slot => ∃ fit, slot = { w.slots.get k with fit }) w
    { w.slot with fit } ⟨fit, rfl⟩ (fun _ _ => ⟨_, rfl⟩) k

/-- A frame leaves the editor of a slot that does not wait, shown or not. -/
theorem handle_frame_of_settled (w : Workbench o) (k : Kind) (now : Nat) (event : Event)
    (width height : Nat) (draws : event.frame? = some (width, height))
    (settled : (w.slots.get k).needsFit = false) :
    ((w.handle now event).value.slots.get k).editor = (w.slots.get k).editor ∧
      ((w.handle now event).value.slots.get k).needsFit = false := by
  obtain ⟨engine, handled⟩ := get_handle_of_frame w k now event width height draws
  rw [handled]
  by_cases here : k = w.active
  · subst here
    obtain ⟨fit, noted⟩ := get_noteLayout w width height w.active
    rw [afterDraw_of_settled w settled, noted]
    exact ⟨rfl, settled⟩
  · rw [(stays_afterDraw w { now } width height).others k here]
    exact ⟨rfl, settled⟩

theorem needsFit_handle_of_settled (w : Workbench o) (k : Kind) (now : Nat) (event : Event)
    (steady : event.isResize = false) (settled : (w.slots.get k).needsFit = false) :
    ((w.handle now event).value.slots.get k).needsFit = false := by
  cases event with
  | key key => exact ((keyEffect_handleKey w now key).needsFit k).trans settled
  | mouse kind column row =>
      exact ((tends_handleMouse w kind column row).needsFit k).trans settled
  | resize width height => contradiction
  | draw width height =>
      exact (handle_frame_of_settled w k now _ width height rfl settled).2
  | tick width height =>
      exact (handle_frame_of_settled w k now _ width height rfl settled).2

theorem needsFit_live_of_settled (w : Workbench o) (k : Kind) (events : List (Nat × Event))
    (steady : ∀ entry ∈ events, entry.2.isResize = false)
    (settled : (w.slots.get k).needsFit = false) :
    ((w.live events).slots.get k).needsFit = false := by
  induction events generalizing w with
  | nil => exact settled
  | cons entry rest ih =>
      obtain ⟨now, event⟩ := entry
      apply ih
      · intro later member
        exact steady later (List.mem_cons_of_mem _ member)
      · exact needsFit_handle_of_settled w k now event (steady _ List.mem_cons_self) settled

/-- Events with a resize among them spare the grid `g` of a slot, and then a frame shows
the slot.  The grid of its editor and of its engine becomes `g` at the size of the pane in
that frame.  The engine is left alone by the frame if `g` had that size, and is a new one
otherwise.  Until the next resize no frame changes the grid again. -/
theorem refit_takes_size_of_frame (o : Options) (start : Kind) (program : Option Program)
    (past events : List (Nat × Event)) (k : Kind) (g : Grid) (now width height : Nat) :
    let w := (create o start program).value.live past
    let shown := w.live events
    let d := ProgramPane.gridFit (FrameLayout.ofSize width height).program.inner
    let drawn := (shown.handle now (.draw width height)).value
    (w.slots.get k).editor.grid? = some g →
    (∃ entry ∈ events, entry.2.isResize = true) → w.Spares k events → shown.active = k →
    (∀ event, event.frame? = some (width, height) →
      let after := (shown.handle now event).value
      (after.slots.get k).editor.grid? = some (g.resized d) ∧
      (after.slots.get k).engine.program = .grid (g.resized d) ∧
      ∀ later, (∀ entry ∈ later, entry.2.isResize = false) →
        ∀ time redraw, redraw.frame?.isSome = true →
          (((after.live later).handle time redraw).value.slots.get k).editor.grid? =
            ((after.live later).slots.get k).editor.grid?) ∧
    (d = g.dims → (drawn.slots.get k).engine = (shown.slots.get k).engine) ∧
    (d ≠ g.dims → (drawn.slots.get k).engine =
      (Engine.create (k.language o) (.grid (g.resized d)) o.pace).value) := by
  intro w shown d drawn holds resized spares active
  have tied : ∀ j, (shown.slots.get j).Tied j := fun j =>
    (tied_create o start program j).changes
      ((leads_live _ past j).trans (leads_live w events j))
  have pace : (shown.slots.get k).engine.pace = o.pace :=
    (Slot.pace_eq_of_changes (leads_live w events k)).trans (pace_live o start program past k)
  obtain ⟨kept, waits⟩ := live_of_spares w k events spares
  have unchanged : (shown.slots.get k).editor.grid? = some g := kept.trans holds
  obtain ⟨editor, source, rfl⟩ := Editor.eq_grid_of_grid? unchanged
  have isGrid : k.isGrid = true := ((tied k).of_grid source).1
  have pending : (shown.slots.get k).needsFit = true := by
    rw [waits, List.any_eq_true.mpr resized, isGrid]
    simp
  clear_value shown
  subst active
  obtain ⟨refit, settled, same, other⟩ :=
    get_afterDraw_of_pending shown { now } width height editor source isGrid pending
  refine ⟨?_, same, ?_⟩
  · intro event draws after
    obtain ⟨engine, handled⟩ := get_handle_of_frame shown shown.active now event width height draws
    have shows : (after.slots.get shown.active).editor.grid? = some (editor.grid.resized d) := by
      rw [handled]
      exact refit
    have calm : (after.slots.get shown.active).needsFit = false := by
      rw [handled]
      exact settled
    have tiedAfter : (after.slots.get shown.active).Tied shown.active :=
      (tied shown.active).changes (leads_handle shown now event shown.active)
    refine ⟨shows, ?_, ?_⟩
    · obtain ⟨editorAfter, sourceAfter, gridAfter⟩ := Editor.eq_grid_of_grid? shows
      rw [(tiedAfter.of_grid sourceAfter).2.1, gridAfter]
    · intro later steady time redraw redraws
      have still := needsFit_live_of_settled after shown.active later steady calm
      obtain ⟨size, frame⟩ := Option.isSome_iff_exists.mp redraws
      rw [(handle_frame_of_settled _ _ time redraw size.1 size.2 frame still).1]
  · intro differs
    rw [← pace]
    exact other differs

/-- A row of three cells is left behind on a wide screen, another language is drawn on a
narrow one, and the row keeps its cells when it is shown again. -/
theorem refit_takes_size_of_frame_past_narrow_one :
    let row := Grid.ofCells ⟨1, 3⟩ ['+', '-', '*']
    let w := (create {} .back (some (.grid row))).value.live [(0, .draw 80 24)]
    let tab : Event := .key { code := .tab }
    let events := [(1, .resize 30 10), (2, tab), (3, .draw 6 4), (4, tab), (5, tab), (6, tab)]
    let d := ProgramPane.gridFit (FrameLayout.ofSize 20 6).program.inner
    let drawn := ((w.live events).handle 7 (.draw 20 6)).value
    d = ⟨3, 5⟩ ∧
      (drawn.slots.get .back).editor.grid? = some (row.resized d) ∧
      (drawn.slots.get .back).engine =
        (Engine.create (Kind.back.language {}) (.grid (row.resized d)) {}).value := by
  have spares : Spares
      ((create {} .back (some (.grid (Grid.ofCells ⟨1, 3⟩ ['+', '-', '*'])))).value.live
        [(0, .draw 80 24)]) .back
      [(1, .resize 30 10), (2, .key { code := .tab }), (3, .draw 6 4), (4, .key { code := .tab }),
        (5, .key { code := .tab }), (6, .key { code := .tab })] := by
    refine ⟨nofun, nofun, nofun, ?_, ?_, nofun, nofun, ?_, nofun, ?_, nofun, ?_, trivial⟩
    · intro _ _
      decide +kernel
    · intro _
      decide +kernel
    · intro _ _
      decide +kernel
    · intro _ _
      decide +kernel
    · intro _ _
      decide +kernel
  have refit := refit_takes_size_of_frame {} .back _ _ _ .back
    (Grid.ofCells ⟨1, 3⟩ ['+', '-', '*']) 7 20 6 (by decide +kernel) (by decide) spares
    (by decide +kernel)
  exact ⟨by decide +kernel, (refit.1 (.draw 20 6) rfl).1, refit.2.2 (by decide +kernel)⟩

end Workbench

end StepLab
