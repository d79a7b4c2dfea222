import StepLab.Proofs.Workbench.Effects

/-! # The reset question

The reset question holds everything back until it is answered.  While it is open the
workbench is the one that asked, but for the mode and what is noted of the pane: other
keys and the mouse do nothing, a frame finds no grid that waits for its size, and ticks
are not delivered.  A refusal therefore gives back all slots as they were, with a running
ticker and its deadline; consent starts the active program over and touches nothing else. -/

set_option autoImplicit false

namespace StepLab

/-- Whether an event leaves a question open: no key that answers it, and no resize. -/
def Event.Awaits : Event → Prop
  | .key pressed => pressed.code ∉ [.char 'y', .char 'Y', .char 'n', .char 'N', .escape]
  | .resize _ _ => False
  | _ => True

namespace Workbench

variable {o : Options}

theorem neither_of_ne {c a b : Char} (first : ¬ c = a) (second : ¬ c = b) :
    ¬ (decide (c = a) || decide (c = b)) = true := by
  simp [first, second]

theorem answer?_eq_none {code : KeyCode}
    (silent : code ∉ [.char 'y', .char 'Y', .char 'n', .char 'N', .escape]) :
    answer? code = none := by
  cases code with
  | char c =>
      simp only [List.mem_cons, KeyCode.char.injEq, reduceCtorEq, List.not_mem_nil, or_false,
        not_or] at silent
      obtain ⟨smallYes, yes, smallNo, no⟩ := silent
      show (if c = 'y' || c = 'Y' then some true
        else if c = 'n' || c = 'N' then some false else none) = none
      rw [if_neg (neither_of_ne smallYes yes), if_neg (neither_of_ne smallNo no)]
  | escape => exact absurd (by decide) silent
  | _ => rfl

theorem answer?_of_refusal {code : KeyCode} (refuses : code ∈ [.char 'n', .char 'N', .escape]) :
    answer? code = some false := by
  simp only [List.mem_cons, List.not_mem_nil, or_false] at refuses
  rcases refuses with rfl | rfl | rfl <;> rfl

theorem answer?_of_consent {code : KeyCode} (agrees : code ∈ [.char 'y', .char 'Y']) :
    answer? code = some true := by
  simp only [List.mem_cons, List.not_mem_nil, or_false] at agrees
  rcases agrees with rfl | rfl <;> rfl

/-! ## While the question is open -/

/-- The workbench with its question open, after some frames. -/
def asking (w : Workbench o) (fit : Option Dims) (inner : Area) : Workbench o :=
  { w.setSlot { w.slot with fit } with mode := .confirmReset, programInner := inner }

theorem slot_asking (w : Workbench o) (fit : Option Dims) (inner : Area) :
    (w.asking fit inner).slot = { w.slot with fit } :=
  slot_setSlot w { w.slot with fit }

theorem set_slots_asking (w : Workbench o) (fit : Option Dims) (inner : Area)
    (slot : Slot (w.active.language o)) :
    (w.asking fit inner).slots.set w.active slot = w.slots.set w.active slot :=
  Slots.set_set w.slots w.active _ slot

/-- A key that opens the question does nothing else. -/
theorem eq_asking_of_opens {w after : Workbench o} (effect : w.KeyEffect after)
    (normal : w.mode = .normal) (opens : after.mode = .confirmReset) :
    after = w.asking w.slot.fit w.programInner := by
  cases effect with
  | tended tends =>
      rw [tends.mode, normal] at opens
      contradiction
  | left tends =>
      rw [tends.mode] at opens
      contradiction
  | typing _ status isText => contradiction
  | asking _ =>
      show _ = { w.setSlot w.slot with mode := .confirmReset }
      rw [setSlot_slot]
  | switched _ host next status =>
      have same : (w.dispatch host .stop).value.mode = .confirmReset := opens
      rw [(tends_dispatch w host .stop).mode, normal] at same
      contradiction

theorem handleMouse_of_asking {w : Workbench o} (asks : w.mode = .confirmReset)
    (kind : MouseKind) (column row : Nat) : w.handleMouse kind column row = w := by
  unfold handleMouse
  split
  · rename_i normal _
    rw [asks] at normal
    contradiction
  · rfl

theorem pollActive_of_asking {w : Workbench o} (asks : w.mode = .confirmReset) (host : Host) :
    (w.pollActive host).value = w := by
  unfold pollActive
  rw [if_pos asks]
  rfl

theorem afterDraw_asking (w : Workbench o) (settled : w.slot.needsFit = false)
    (fit : Option Dims) (inner : Area) (host : Host) (width height : Nat) :
    ∃ fit' inner', ((w.asking fit inner).afterDraw host width height).value =
      w.asking fit' inner' := by
  have waits : (w.asking fit inner).slot.needsFit = false := by
    rw [slot_asking]
    exact settled
  obtain ⟨fit', noted⟩ := noteLayout_eq (w.asking fit inner) width height
  refine ⟨fit', (FrameLayout.ofSize width height).program.inner, ?_⟩
  rw [afterDraw_of_settled _ waits, noted, slot_asking]
  show { w with
    slots := (w.asking fit inner).slots.set w.active { w.slot with fit := fit' }
    mode := .confirmReset
    programInner := (FrameLayout.ofSize width height).program.inner } = _
  rw [set_slots_asking]
  rfl

theorem handle_asking (w : Workbench o) (settled : w.slot.needsFit = false)
    (fit : Option Dims) (inner : Area) (now : Nat) (event : Event) (awaits : event.Awaits) :
    ∃ fit' inner', ((w.asking fit inner).handle now event).value = w.asking fit' inner' := by
  cases event with
  | key key =>
      refine ⟨fit, inner, ?_⟩
      show ((w.asking fit inner).confirmKey now key).value = _
      unfold confirmKey
      rw [answer?_eq_none awaits]
      rfl
  | mouse kind column row =>
      have asks : (w.asking fit inner).mode = .confirmReset := rfl
      exact ⟨fit, inner, handleMouse_of_asking asks kind column row⟩
  | resize width height => contradiction
  | draw width height => exact afterDraw_asking w settled fit inner { now } width height
  | tick width height =>
      obtain ⟨fit', inner', drawn⟩ := afterDraw_asking w settled fit inner { now } width height
      refine ⟨fit', inner', ?_⟩
      rcases afterTick_cases (w.asking fit inner) { now } width height with left | polled
      · exact left.trans drawn
      · rw [drawn, pollActive_of_asking rfl] at polled
        exact polled

theorem live_asking (w : Workbench o) (settled : w.slot.needsFit = false)
    (fit : Option Dims) (inner : Area) (waiting : List (Nat × Event))
    (awaits : ∀ entry ∈ waiting, entry.2.Awaits) :
    ∃ fit' inner', (w.asking fit inner).live waiting = w.asking fit' inner' := by
  induction waiting generalizing fit inner with
  | nil => exact ⟨fit, inner, rfl⟩
  | cons entry rest ih =>
      obtain ⟨now, event⟩ := entry
      obtain ⟨fit', inner', handled⟩ :=
        handle_asking w settled fit inner now event (awaits _ List.mem_cons_self)
      have later := ih fit' inner' fun entry member =>
        awaits entry (List.mem_cons_of_mem _ member)
      rw [live, handled]
      exact later

/-! ## The answer -/

/-- `after` is the workbench `w` again, in normal mode and with `engine` as its active
engine; of the rest only what is noted of the pane and the status line may differ. -/
structure Resumes (w after : Workbench o) (engine : Engine (w.active.language o)) : Prop where
  active : after.active = w.active
  slot : ∃ fit, after.slots.get w.active = { w.slot with engine, fit }
  others : ∀ k, k ≠ w.active → after.slots.get k = w.slots.get k
  shouldQuit : after.shouldQuit = w.shouldQuit
  mode : after.mode = .normal

theorem handle_answer (w : Workbench o) (fit : Option Dims) (inner : Area) (now : Nat)
    (key : Key) (answer : Bool) (answers : answer? key.code = some answer) :
    ((w.asking fit inner).handle now (.key key)).value =
      { w.setSlot { w.slot with
          fit
          engine := (w.slot.engine.perform { now, confirm := answer } .reset).value } with
        mode := .normal
        programInner := inner
        status := if answer then "Reset" else "Reset cancelled" } := by
  show ((w.asking fit inner).confirmKey now key).value = _
  unfold confirmKey
  rw [answers]
  show { w with
    slots := (w.asking fit inner).slots.set w.active { (w.asking fit inner).slot with
      engine := ((w.asking fit inner).slot.engine.perform { now, confirm := answer }
        .reset).value }
    mode := .normal
    programInner := inner
    status := if answer then "Reset" else "Reset cancelled" } = _
  rw [slot_asking, set_slots_asking]
  rfl

theorem resumes_of_answer (w : Workbench o) (fit : Option Dims) (inner : Area) (now : Nat)
    (key : Key) (answer : Bool) (answers : answer? key.code = some answer) :
    w.Resumes ((w.asking fit inner).handle now (.key key)).value
      (w.slot.engine.perform { now, confirm := answer } .reset).value := by
  rw [handle_answer w fit inner now key answer answers]
  refine ⟨rfl, ⟨fit, ?_⟩, ?_, rfl, rfl⟩
  · exact Slots.get_set_self w.slots w.active _
  · intro k other
    exact Slots.get_set_of_ne w.slots _ other

/-- A key press opens the reset question on a workbench in normal mode whose active slot
waits for no size.  Whatever keys that are no answer, mouse events, frames and ticks
follow, a refusal then gives the workbench back as it was, and consent puts a new engine
for the same program in the place of the active one. -/
theorem reset_question_holds_back (o : Options) (start : Kind) (program : Option Program)
    (events : List (Nat × Event)) (now : Nat) (key : Key) (waiting : List (Nat × Event))
    (later : Nat) (answer : Key) :
    let w := (create o start program).value.live events
    let opened := (w.handle now (.key key)).value
    let after := ((opened.live waiting).handle later (.key answer)).value
    w.mode = .normal → w.slot.needsFit = false → opened.mode = .confirmReset →
    (∀ entry ∈ waiting, entry.2.Awaits) →
    (answer.code ∈ [.char 'n', .char 'N', .escape] → w.Resumes after w.slot.engine) ∧
    (answer.code ∈ [.char 'y', .char 'Y'] →
      w.Resumes after (Engine.create (w.active.language o) w.program o.pace).value) := by
  intro w opened after normal settled opens awaits
  have asks : opened = w.asking w.slot.fit w.programInner :=
    eq_asking_of_opens (keyEffect_handleKey w now key) normal opens
  obtain ⟨fit, inner, held⟩ :=
    live_asking w settled w.slot.fit w.programInner waiting awaits
  have reached : after = ((w.asking fit inner).handle later (.key answer)).value := by
    rw [← held, ← asks]
  constructor
  · intro refuses
    have resumes := resumes_of_answer w fit inner later answer false
      (answer?_of_refusal refuses)
    rw [Engine.perform_reset_of_declined _ _ rfl] at resumes
    rw [reached]
    exact resumes
  · intro agrees
    have resumes := resumes_of_answer w fit inner later answer true
      (answer?_of_consent agrees)
    have pace : w.slot.engine.pace = o.pace := pace_live o start program events w.active
    have fresh : (Engine.create (w.active.language o) w.program o.pace).value =
        (w.slot.engine.perform { now := later, confirm := true } .reset).value := by
      rw [Engine.perform_reset_of_agreed _ _ rfl, ← pace]
      rfl
    rw [fresh, reached]
    exact resumes

/-- A program runs and its tick is overdue while the question is open: a refusal finds it
still due, and consent starts over. -/
theorem reset_question_holds_back_overdue_tick :
    let w := (create {} .stunStep (some (.text "+"))).value.live [(0, .key { code := .char ' ' })]
    let opened := (w.handle 10 (.key { code := .char 'r' })).value
    let waiting : List (Nat × Event) :=
      [(20, .key { code := .char 'q' }), (30, .mouse .leftDown 3 2), (900, .tick 80 24)]
    let after := fun code => ((opened.live waiting).handle 950 (.key { code })).value
    w.slot.engine.ticker.deadline = some 200 ∧
      w.Resumes (after .escape) w.slot.engine ∧
      w.Resumes (after (.char 'Y')) (Engine.create (w.active.language {}) w.program {}).value := by
  intro w opened waiting after
  have normal : w.mode = .normal := by decide +kernel
  have settled : w.slot.needsFit = false := by decide +kernel
  have opens : opened.mode = .confirmReset := by decide +kernel
  have awaits : ∀ entry ∈ waiting, entry.2.Awaits := by
    intro entry member
    simp only [waiting, List.mem_cons, List.not_mem_nil, or_false] at member
    rcases member with rfl | rfl | rfl
    · show KeyCode.char 'q' ∉ _
      decide
    · trivial
    · trivial
  have answered := fun code => reset_question_holds_back {} .stunStep (some (.text "+"))
    [(0, .key { code := .char ' ' })] 10 { code := .char 'r' } waiting 950 { code }
    normal settled opens awaits
  exact ⟨by decide +kernel, (answered .escape).1 (by decide), (answered (.char 'Y')).2 (by decide)⟩

end Workbench

end StepLab
