import Mathlib.Data.List.Induction
import StepLab.Engine.Ticker

/-! # When a ticker ticks

A ticker has no clock, and the readings it is polled with may come late, early or out of
order.  It ticks exactly when it runs and the reading has reached its deadline.  Every
tick moves the deadline an interval past its own reading, so a late tick puts off those
after it and none is made up for: whoever counts `k` ticks since the start has seen a
reading `k` intervals after it. -/

set_option autoImplicit false

namespace StepLab.Ticker

variable {μ : Type}

/-- What a ticker is told or asked. -/
inductive Call (μ : Type) where
  | start (message : μ) (interval now : Nat)
  | clear
  | poll (now : Nat)
  deriving DecidableEq

def obey (t : Ticker μ) : Call μ → Ticker μ
  | .start message interval now => (t.start message interval now).value
  | .clear => t.clear.value
  | .poll now => (t.poll now).2

def run (t : Ticker μ) (calls : List (Call μ)) : Ticker μ :=
  calls.foldl obey t

/-- Those of some readings, polled one after the other, at which a message is sent. -/
def ticks (t : Ticker μ) : List Nat → List Nat
  | [] => []
  | now :: rest =>
      if (t.poll now).1.isSome then now :: (t.poll now).2.ticks rest
      else (t.poll now).2.ticks rest

def running (tick : Tick μ) : Ticker μ := { active := some tick }

/-! ## One poll -/

theorem poll_cases (t : Ticker μ) (now : Nat) :
    ((∀ tick, t.active = some tick → now < tick.deadline) ∧ t.poll now = (none, t)) ∨
    ∃ tick, t.active = some tick ∧ tick.deadline ≤ now ∧
      t.poll now =
        (some tick.message, running { tick with deadline := now + tick.interval }) := by
  obtain ⟨active⟩ := t
  cases active with
  | none => exact Or.inl ⟨by simp, poll_idle now⟩
  | some tick =>
      by_cases early : now < tick.deadline
      · left
        refine ⟨?_, poll_early tick now early⟩
        intro other same
        cases same
        exact early
      · exact Or.inr ⟨tick, rfl, Nat.le_of_not_lt early, poll_due tick now (Nat.le_of_not_lt early)⟩

theorem isSome_poll_iff (t : Ticker μ) (now : Nat) :
    (t.poll now).1.isSome ↔ ∃ tick, t.active = some tick ∧ tick.deadline ≤ now := by
  rcases poll_cases t now with ⟨early, silent⟩ | ⟨tick, active, due, sent⟩
  · rw [silent]
    constructor
    · intro sent
      simp at sent
    · rintro ⟨tick, active, due⟩
      have before := early tick active
      omega
  · rw [sent]
    exact ⟨fun _ => ⟨tick, active, due⟩, fun _ => rfl⟩

theorem exists_active_of_poll_eq {t : Ticker μ} {now : Nat} {message : μ}
    (sent : (t.poll now).1 = some message) :
    ∃ tick, t.active = some tick ∧ tick.message = message := by
  rcases poll_cases t now with ⟨_, silent⟩ | ⟨tick, active, _, polled⟩
  · rw [silent] at sent
    contradiction
  · rw [polled] at sent
    exact ⟨tick, active, Option.some.inj sent⟩

theorem exists_active_of_active_poll {t : Ticker μ} {now : Nat} {after : Tick μ}
    (active : (t.poll now).2.active = some after) :
    ∃ tick, t.active = some tick ∧ tick.message = after.message := by
  rcases poll_cases t now with ⟨_, silent⟩ | ⟨tick, running, _, polled⟩
  · rw [silent] at active
    exact ⟨after, active, rfl⟩
  · rw [polled] at active
    refine ⟨tick, running, ?_⟩
    cases active
    rfl

theorem poll_running_of_early {tick : Tick μ} {now : Nat} (early : now < tick.deadline) :
    (running tick).poll now = (none, running tick) :=
  poll_early tick now early

theorem poll_running_of_due {tick : Tick μ} {now : Nat} (due : tick.deadline ≤ now) :
    (running tick).poll now =
      (some tick.message, running { tick with deadline := now + tick.interval }) :=
  poll_due tick now due

/-! ## Since the latest start -/

/-- However often a running ticker is polled, its deadline is an interval past the last
reading at which it ticked, and the ticks are at least an interval apart from the first
deadline on. -/
theorem run_polls (tick : Tick μ) (readings : List Nat) :
    let sent := (running tick).ticks readings
    ∃ deadline, (running tick).run (readings.map .poll) = running { tick with deadline } ∧
      (sent = [] → deadline = tick.deadline) ∧
      ∀ last, sent.getLast? = some last →
        tick.deadline + sent.length * tick.interval ≤ last + tick.interval ∧
          deadline = last + tick.interval := by
  induction readings generalizing tick with
  | nil =>
      refine ⟨tick.deadline, rfl, fun _ => rfl, ?_⟩
      intro last ticked
      simp [ticks] at ticked
  | cons now rest ih =>
      by_cases early : now < tick.deadline
      · have silent := poll_running_of_early early
        simp only [List.map_cons, run, List.foldl_cons, obey, ticks, silent, Option.isSome_none,
          Bool.false_eq_true, if_false]
        exact ih tick
      · have due : tick.deadline ≤ now := Nat.le_of_not_lt early
        have fires := poll_running_of_due due
        -- The rest is polled from the new deadline on.
        obtain ⟨deadline, reached, untouched, later⟩ :=
          ih { tick with deadline := now + tick.interval }
        simp only [List.map_cons, run, List.foldl_cons, obey, ticks, fires, Option.isSome_some,
          if_true]
        refine ⟨deadline, reached, by simp, ?_⟩
        intro last ticked
        cases others : (running { tick with deadline := now + tick.interval }).ticks rest with
        | nil =>
            rw [others, List.getLast?_singleton] at ticked
            cases ticked
            refine ⟨?_, untouched others⟩
            simp only [List.length_singleton, Nat.one_mul]
            omega
        | cons second further =>
            rw [others] at ticked later
            rw [List.getLast?_cons_cons] at ticked
            obtain ⟨apart, moved⟩ := later last ticked
            refine ⟨?_, moved⟩
            simp only [List.length_cons, Nat.add_mul, Nat.one_mul] at apart ⊢
            omega

theorem run_append (t : Ticker μ) (before after : List (Call μ)) :
    t.run (before ++ after) = (t.run before).run after := by
  simp [run]

/-- A ticker that runs was started, and only polled since. -/
theorem exists_start_of_active {calls : List (Call μ)} {tick : Tick μ}
    (active : (idle.run calls).active = some tick) :
    ∃ before interval start, ∃ readings : List Nat,
      calls = before ++ .start tick.message interval start :: readings.map .poll := by
  induction calls using List.reverseRecOn generalizing tick with
  | nil => contradiction
  | append_singleton calls call ih =>
      rw [run_append] at active
      cases call with
      | start message interval now =>
          cases active
          exact ⟨calls, interval, now, [], rfl⟩
      | clear => contradiction
      | poll now =>
          obtain ⟨previous, running, same⟩ := exists_active_of_active_poll active
          obtain ⟨before, interval, start, readings, split⟩ := ih running
          refine ⟨before, interval, start, readings ++ [now], ?_⟩
          rw [split, ← same]
          simp

theorem run_idle (calls : List (Call μ))
    (unstarted : ∀ message interval now, .start message interval now ∉ calls) :
    (idle : Ticker μ).run calls = idle := by
  induction calls with
  | nil => rfl
  | cons call rest ih =>
      have later : (idle : Ticker μ).run rest = idle := by
        apply ih
        intro message interval now member
        exact unstarted message interval now (List.mem_cons_of_mem _ member)
      cases call with
      | start message interval now =>
          exact absurd List.mem_cons_self (unstarted message interval now)
      | clear => exact later
      | poll now => exact later

/-- After any calls, with any readings, a poll sends something exactly when the ticker
runs and the reading has reached its deadline, and it sends the message of the latest
start.  If the ticker has been polled since it was started, the `k` ticks it sent took it
`k` intervals past the start, and the next one is due an interval after the last.  Once it
is stopped, nothing is sent until it is started again. -/
theorem run_ticks_on_time (calls : List (Call μ)) :
    let t := (idle : Ticker μ).run calls
    (∀ now, ((t.poll now).1.isSome ↔ ∃ tick, t.active = some tick ∧ tick.deadline ≤ now) ∧
      ∀ message, (t.poll now).1 = some message → ∃ before interval start, ∃ readings : List Nat,
        calls = before ++ .start message interval start :: readings.map .poll) ∧
    (∀ before message interval start readings,
      calls = before ++ .start message interval start :: readings.map .poll →
      let sent := ((idle : Ticker μ).run (before ++ [.start message interval start])).ticks
        readings
      (sent = [] → t.deadline = some (start + interval)) ∧
      ∀ last, sent.getLast? = some last →
        start + sent.length * interval ≤ last ∧ t.deadline = some (last + interval)) ∧
    ∀ before after, calls = before ++ .clear :: after →
      (∀ message interval start, .start message interval start ∉ after) →
      ∀ now, (t.poll now).1 = none := by
  intro t
  refine ⟨?_, ?_, ?_⟩
  · intro now
    refine ⟨isSome_poll_iff t now, ?_⟩
    intro message sent
    obtain ⟨tick, active, same⟩ := exists_active_of_poll_eq sent
    rw [← same]
    exact exists_start_of_active active
  · intro before message interval start readings split
    have started : (idle : Ticker μ).run (before ++ [.start message interval start]) =
        running { message, interval, deadline := start + interval } := by
      rw [run_append]
      rfl
    obtain ⟨deadline, reached, untouched, later⟩ :=
      run_polls { message, interval, deadline := start + interval } readings
    have whole : t = running { message, interval, deadline } := by
      rw [← reached, ← started, ← run_append]
      simp [t, split]
    have ends : t.deadline = some deadline := by
      rw [whole]
      rfl
    rw [started, ends]
    intro sent
    constructor
    · intro nothing
      rw [untouched nothing]
    · intro last ticked
      obtain ⟨apart, moved⟩ := later last ticked
      have bound : start + interval + sent.length * interval ≤ last + interval := apart
      exact ⟨by omega, congrArg some moved⟩
  · intro before after split unstarted now
    have stopped : t = idle := by
      have cleared : t = (idle : Ticker μ).run after := by
        simp [t, split, run, obey]
      rw [cleared, run_idle after unstarted]
    rw [stopped, poll_idle]

/-- A ticker is started anew, polled late, then with an earlier reading, then in time; a
stop keeps it silent. -/
theorem run_ticks_on_time_of_late_polls :
    let calls : List (Call String) := [.start "old" 5 0, .poll 3, .start "new" 10 100] ++
      [135, 120, 145].map .poll
    let t := idle.run calls
    (∃ before interval start, ∃ readings : List Nat,
        calls = before ++ .start "new" interval start :: readings.map .poll) ∧
      100 + 2 * 10 ≤ 145 ∧ t.deadline = some 155 ∧
      ((idle.run (calls ++ [.clear, .poll 999])).poll 1000).1 = none := by
  intro calls t
  obtain ⟨polled, since, _⟩ := run_ticks_on_time calls
  have sent : (idle.run ([.start "old" 5 0, .poll 3] ++ [.start "new" 10 100])).ticks
      [135, 120, 145] = [135, 145] := by decide
  have spaced := (since [.start "old" 5 0, .poll 3] "new" 10 100 [135, 120, 145] rfl).2 145
    (by rw [sent]; rfl)
  rw [sent] at spaced
  obtain ⟨_, _, silent⟩ := run_ticks_on_time (calls ++ [.clear, .poll 999])
  exact ⟨(polled 155).2 "new" (by decide), spaced.1, spaced.2,
    silent calls [.poll 999] rfl (by simp) 1000⟩

end StepLab.Ticker
