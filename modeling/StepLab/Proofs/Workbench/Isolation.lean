import StepLab.Proofs.Workbench.Agreement
import StepLab.Proofs.Workbench.Effects

/-! # Only the active language runs

Leaving a language pauses its engine, and no event reaches a slot that is not active.
So at every moment all engines but the active one are paused with an idle ticker, and
switching to a language finds it as it was left.  Typing starts only in a slot that
holds a text and ends before another slot can become active, so a grid language is
never typed into. -/

set_option autoImplicit false

namespace StepLab.Workbench

variable {o : Options}

/-- The engines that are not active rest, and only a text is typed into. -/
structure Calm (w : Workbench o) : Prop where
  rest : ∀ k, k ≠ w.active →
    (w.slots.get k).engine.paused = true ∧ (w.slots.get k).engine.ticker = .idle
  typing : w.mode = .insert → w.active.isGrid = false

theorem Calm.stays {w after : Workbench o} (calm : w.Calm) (stays : w.Stays after) :
    after.Calm := by
  constructor
  · intro k other
    rw [stays.active] at other
    rw [stays.others k other]
    exact calm.rest k other
  · intro insert
    rw [stays.active]
    exact calm.typing (stays.mode ▸ insert)

theorem Calm.leave_mode {w : Workbench o} (calm : w.Calm) : Calm { w with mode := .normal } :=
  ⟨calm.rest, nofun⟩

/-- The slot that is left holds a stopped engine, whatever becomes active. -/
theorem Calm.switch {w : Workbench o} (calm : w.Calm) (normal : w.mode = .normal)
    (host : Host) (next : Kind) (status : String) :
    Calm { (w.dispatch host .stop).value with active := next, status } := by
  have tends := tends_dispatch w host .stop
  constructor
  · intro k _
    show ((w.dispatch host .stop).value.slots.get k).engine.paused = true ∧ _
    by_cases here : k = w.active
    · subst here
      have stopped : (w.dispatch host .stop).value.slots.get w.active =
          { w.slot with engine := (w.slot.engine.dispatch host .stop).value } :=
        Slots.get_set_self _ _ _
      rw [stopped]
      exact ⟨rfl, rfl⟩
    · rw [tends.others k here]
      exact calm.rest k here
  · intro insert
    have same : (w.dispatch host .stop).value.mode = .insert := insert
    rw [tends.mode, normal] at same
    contradiction

theorem Calm.key {w after : Workbench o} (calm : w.Calm)
    (tied : (w.slots.get w.active).Tied w.active) (effect : w.KeyEffect after) :
    after.Calm := by
  cases effect with
  | tended tends => exact calm.stays tends.toStays
  | left tends => exact calm.leave_mode.stays tends.toStays
  | typing normal status isText =>
      refine ⟨calm.rest, fun _ => ?_⟩
      cases holds : (w.slots.get w.active).editor with
      | text source => exact (tied.of_text holds).1
      | grid editor =>
          have shown : (Editor.grid editor).isText = true := holds ▸ isText
          contradiction
  | asking normal => exact ⟨calm.rest, nofun⟩
  | switched normal host next status => exact calm.switch normal host next status

theorem Calm.handle {w : Workbench o} (calm : w.Calm)
    (tied : (w.slots.get w.active).Tied w.active) (now : Nat) (event : Event) :
    (w.handle now event).value.Calm := by
  cases event with
  | key key => exact calm.key tied (keyEffect_handleKey w now key)
  | mouse kind column row => exact calm.stays (tends_handleMouse w kind column row).toStays
  | resize width height =>
      refine ⟨fun k other => ?_, calm.typing⟩
      have kept : (w.slots.invalidate.get k).engine = (w.slots.get k).engine := by
        rw [w.slots.get_invalidate k]
      show (w.slots.invalidate.get k).engine.paused = true ∧
        (w.slots.invalidate.get k).engine.ticker = .idle
      rw [kept]
      exact calm.rest k other
  | draw width height => exact calm.stays (stays_afterDraw w { now } width height)
  | tick width height => exact calm.stays (stays_afterTick w { now } width height)

theorem calm_create (o : Options) (start : Kind) (program : Option Program) :
    (create o start program).value.Calm := by
  refine ⟨fun k _ => ?_, nofun⟩
  cases k <;> exact ⟨rfl, rfl⟩

theorem Calm.live {w : Workbench o} (calm : w.Calm) (tied : ∀ k, (w.slots.get k).Tied k)
    (events : List (Nat × Event)) : (w.live events).Calm := by
  induction events generalizing w with
  | nil => exact calm
  | cons entry rest ih =>
      obtain ⟨now, event⟩ := entry
      have after : ∀ k, ((w.handle now event).value.slots.get k).Tied k := fun k =>
        (tied k).changes (leads_handle w now event k)
      exact ih (calm.handle (tied w.active) now event) after

/-- At every moment of a session the engines that are not active are paused and their
tickers idle, typing is on only in a text language, and whatever event comes next leaves
the engine and the editor of every slot that is not active as they are.  Of such a slot
a resize marks a grid as waiting for the size of its pane, and nothing else is changed. -/
theorem live_isolated (o : Options) (start : Kind) (program : Option Program)
    (events : List (Nat × Event)) :
    let w := (create o start program).value.live events
    (∀ k, k ≠ w.active →
      (w.slots.get k).engine.paused = true ∧ (w.slots.get k).engine.ticker = .idle) ∧
    (w.mode = .insert → w.active.isGrid = false) ∧
    ∀ now event k, k ≠ w.active →
      let before := w.slots.get k
      let after := (w.handle now event).value.slots.get k
      after.engine = before.engine ∧ after.editor = before.editor ∧
        (after = before ∨
          (∃ width height, event = .resize width height) ∧
            after = { before with needsFit := before.needsFit || k.isGrid, fit := none }) := by
  intro w
  have calm : w.Calm := (calm_create o start program).live (tied_create o start program) events
  refine ⟨calm.rest, calm.typing, ?_⟩
  intro now event k other before after
  have reached := get_handle_of_ne_active w now event k other
  cases event with
  | resize width height =>
      have marked : after = { before with needsFit := before.needsFit || k.isGrid, fit := none } :=
        reached
      rw [marked]
      exact ⟨rfl, rfl, Or.inr ⟨⟨width, height, rfl⟩, rfl⟩⟩
  | _ =>
      have same : after = before := reached
      rw [same]
      exact ⟨rfl, rfl, Or.inl rfl⟩

/-- A program that runs is paused by going on to the next language; while a text is typed
there, an overdue tick does not reach it. -/
theorem live_isolated_of_left_running :
    let start := (create {} .stunStep (some (.text "+"))).value
    let run : List (Nat × Event) := [(0, .key { code := .char ' ' })]
    let leave : List (Nat × Event) := [(5, .key { code := .tab }), (9, .key { code := .char 'i' })]
    let w := start.live (run ++ leave)
    ((start.live run).slots.get .stunStep).engine.paused = false ∧
      (w.slots.get .stunStep).engine.paused = true ∧
      (w.mode = .insert ∧ w.active.isGrid = false) ∧
      ((w.handle 900 (.tick 80 24)).value.slots.get .stunStep).engine =
        (w.slots.get .stunStep).engine := by
  intro start run leave w
  obtain ⟨rest, typing, later⟩ :=
    live_isolated {} .stunStep (some (.text "+")) (run ++ leave)
  have other : Kind.stunStep ≠ w.active := by decide +kernel
  have insert : w.mode = .insert := by decide +kernel
  exact ⟨by decide +kernel, (rest .stunStep other).1, ⟨insert, typing insert⟩,
    (later 900 (.tick 80 24) .stunStep other).1⟩

end StepLab.Workbench
