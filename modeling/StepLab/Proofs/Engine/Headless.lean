import StepLab.Language.StunStep
import StepLab.Proofs.Engine.Script

/-! # Running with and without a ticker

A ticker drives an engine one tick at a time and stops at an ended state; the run
without a ticker steps in a loop of its own and stops at an ended state, at a stall
or at a limit.  Both are iterations of one move on histories, `proceed`, which stays
where the program has ended.  A stall needs no case of its own there: a history that
stalls once stays the same under every further move. -/

set_option autoImplicit false

namespace StepLab

namespace History

variable {L : Language}

def proceed (h : History L) : History L :=
  if L.ended h.current then h else h.next

theorem proceed_of_ended (h : History L) (ended : L.ended h.current = true) :
    h.proceed = h := by
  simp [proceed, ended]

theorem proceed_of_not_ended (h : History L) (going : L.ended h.current = false) :
    h.proceed = h.next := by
  simp [proceed, going]

theorem next_eq_self_of_cursor_eq (h : History L) (stalled : h.next.cursor = h.cursor) :
    h.next = h := by
  have inside := h.cursor_lt
  rcases next_cases h with ⟨more, next⟩ | ⟨last, _, next⟩ | ⟨_, _, next⟩
  · rw [next] at stalled
    simp at stalled
  · rw [next] at stalled
    have moved : (h.extend (L.step h.current)).cursor = h.states.size := rfl
    omega
  · exact next

end History

namespace Engine

variable {L : Language}

/-! ## The loop without a ticker -/

/-- The loop changes the history alone, and proceeds as often as its fuel says. -/
theorem value_runFor (fuel : Nat) (run : Logged (Engine L)) :
    (runFor fuel run).value =
      { run.value with history := History.proceed^[fuel] run.value.history } := by
  induction fuel generalizing run with
  | zero => rfl
  | succ fuel ih =>
      rw [Function.iterate_succ_apply]
      cases ended : run.value.terminated with
      | true =>
          have fixed := History.proceed_of_ended run.value.history ended
          rw [fixed, Function.iterate_fixed fixed]
          simp [runFor, ended]
      | false =>
          have moved : run.value.history.proceed = run.value.history.next :=
            History.proceed_of_not_ended run.value.history ended
          by_cases stalled : run.value.history.next.cursor = run.value.history.cursor
          · -- The loop leaves here; the iteration goes on without effect.
            have same := History.next_eq_self_of_cursor_eq _ stalled
            have fixed := moved.trans same
            rw [fixed, Function.iterate_fixed fixed]
            simp [runFor, ended, perform, forward, same]
          · have onward := ih (run >>= fun e => e.dispatch {} .next)
            rw [moved]
            simpa [runFor, ended, perform, forward, stalled] using onward

theorem value_runToEnd (e : Engine L) (maxSteps : Nat) :
    (e.runToEnd maxSteps).value =
      { e with history := History.proceed^[maxSteps - e.history.cursor] e.history } :=
  value_runFor _ _

/-! ## The ticker -/

/-- Every poll comes at or after the deadline in force when it is made. -/
def Timely (e : Engine L) : List Host → Prop
  | [] => True
  | host :: rest =>
      (∀ deadline ∈ e.ticker.deadline, deadline ≤ host.now) ∧
        Timely (e.poll host).value.2 rest

instance decidableTimely (e : Engine L) (polls : List Host) : Decidable (e.Timely polls) :=
  match polls with
  | [] => inferInstanceAs (Decidable True)
  | host :: rest =>
      have := decidableTimely (e.poll host).value.2 rest
      inferInstanceAs (Decidable (_ ∧ _))

/-- The ticker drives the engine, or has been stopped by an ended state. -/
inductive Driven (e : Engine L) : Prop where
  | running (tick : Tick Action) (active : e.ticker.active = some tick)
      (message : tick.message = .tick)
  | finished (idle : e.ticker.active = none) (ended : L.ended e.history.current = true)

theorem driven_of_start (e : Engine L) (host : Host) (action : Action)
    (starts : action = .run ∨ action = .fastForward) :
    (e.obey host (.dispatch action)).Driven := by
  rcases starts with rfl | rfl
  · exact .running _ rfl rfl
  · exact .running _ rfl rfl

/-- A poll in time is one move of the history, and the engine stays driven. -/
theorem Driven.poll {e : Engine L} (driven : e.Driven) (host : Host)
    (due : ∀ deadline ∈ e.ticker.deadline, deadline ≤ host.now) :
    (e.poll host).value.2.Driven ∧
      (e.poll host).value.2.program = e.program ∧
      (e.poll host).value.2.history = e.history.proceed := by
  rcases poll_cases e host with ⟨early, nothing⟩ | ⟨tick, active, _, delivered⟩
  · rw [nothing]
    cases driven with
    | running tick active message =>
        have deadline : tick.deadline ∈ e.ticker.deadline := by simp [Ticker.deadline, active]
        have now := early tick.deadline deadline
        have late := due tick.deadline deadline
        omega
    | finished idle ended =>
        exact ⟨.finished idle ended, rfl, (History.proceed_of_ended _ ended).symm⟩
  · rw [delivered]
    cases driven with
    | finished idle ended => simp [idle] at active
    | running driver running message =>
        have same : driver = tick := Option.some.inj (running.symm.trans active)
        subst same
        rw [message]
        cases ended : L.ended e.history.current with
        | true =>
            rw [perform_tick_of_ended (e.ticking _) host ended,
              History.proceed_of_ended _ ended]
            exact ⟨.finished rfl ended, rfl, rfl⟩
        | false =>
            rw [perform_tick_of_going (e.ticking _) host ended,
              History.proceed_of_not_ended _ ended]
            exact ⟨.running _ rfl rfl, rfl, rfl⟩

def polling (polls : List Host) : Script :=
  polls.map fun host => (host, .poll)

theorem Driven.play_polling {e : Engine L} (driven : e.Driven) (polls : List Host)
    (timely : e.Timely polls) :
    (e.play (polling polls)).program = e.program ∧
      (e.play (polling polls)).history = History.proceed^[polls.length] e.history := by
  induction polls generalizing e with
  | nil => exact ⟨rfl, rfl⟩
  | cons host rest ih =>
      obtain ⟨due, later⟩ := timely
      obtain ⟨stillDriven, sameProgram, moved⟩ := driven.poll host due
      obtain ⟨program, history⟩ := ih stillDriven later
      refine ⟨program.trans sameProgram, ?_⟩
      rw [moved] at history
      exact history

/-- An engine that is started and then polled in time `j` times ends up where the run
without a ticker ends up with a limit of `j` further steps: the same program, and the
same history with the cursor at the same place. -/
theorem play_polling_eq_runToEnd (e : Engine L) (host : Host) (action : Action)
    (starts : action = .run ∨ action = .fastForward) (polls : List Host)
    (timely : (e.obey host (.dispatch action)).Timely polls) :
    let timed := (e.obey host (.dispatch action)).play (polling polls)
    let headless := (e.runToEnd (e.history.cursor + polls.length)).value
    timed.program = headless.program ∧ timed.history = headless.history := by
  intro timed headless
  have driven := driven_of_start e host action starts
  obtain ⟨program, history⟩ := driven.play_polling polls timely
  have started : (e.obey host (.dispatch action)).program = e.program ∧
      (e.obey host (.dispatch action)).history = e.history := by
    rcases starts with rfl | rfl <;> exact ⟨rfl, rfl⟩
  have steps : e.history.cursor + polls.length - e.history.cursor = polls.length := by omega
  have reached : headless =
      { e with history := History.proceed^[polls.length] e.history } := by
    rw [← steps]
    exact value_runToEnd e _
  rw [reached]
  exact ⟨program.trans started.1, history.trans (congrArg _ started.2)⟩

/-- An engine that has been stepped twice and back once, started before its cached
state and polled past its end. -/
theorem play_polling_eq_runToEnd_from_cached :
    let e := (create stunStep (.text "+++") {}).value.play
      [({}, .dispatch .next), ({}, .dispatch .next), ({}, .dispatch .prev)]
    let polls : List Host := [{ now := 200 }, { now := 450 }, { now := 650 },
      { now := 900 }, { now := 900 }]
    let timed := (e.obey {} (.dispatch .run)).play (polling polls)
    let headless := (e.runToEnd (e.history.cursor + polls.length)).value
    (e.obey {} (.dispatch .run)).Timely polls ∧
      timed.program = headless.program ∧ timed.history = headless.history := by
  intro e polls timed headless
  have timely : (e.obey {} (.dispatch .run)).Timely polls := by decide +kernel
  exact ⟨timely, play_polling_eq_runToEnd e {} .run (Or.inl rfl) polls timely⟩

end Engine

end StepLab
