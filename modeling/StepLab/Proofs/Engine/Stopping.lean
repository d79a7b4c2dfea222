import Mathlib.Order.Bounds.Basic
import StepLab.Proofs.Engine.Headless

/-! # Where a run without a ticker stops

The run without a ticker is a loop with no bound of its own: it goes on while the snapshot
seen last has not ended and lies below the limit, and it leaves when a step does not move
the step counter.  `Loop` is that loop as a relation, so a pair in it is a run that comes
to an end.  Every run does, with the engine that `runToEnd` computes from a bound, and the
cursor is then on the first step, from where it was, at which the program rests or the
limit is reached.

The counter alone tells a stall because a recorded step always moved: replaying raises the
cursor, and only a step that stands still at the end of the history leaves it in place. -/

set_option autoImplicit false

namespace StepLab

/-- A state in which a run stays: it has ended, or its step stands still. -/
def Language.Rests (L : Language) (s : L.State) : Prop :=
  L.ended s = true ∨ L.step s = s

namespace History

variable {L : Language} {h : History L} {first : L.State}

theorem cursor_next_of_moving (moves : L.step h.current ≠ h.current) :
    h.next.cursor = h.cursor + 1 := by
  rcases next_cases h with ⟨_, next⟩ | ⟨last, _, next⟩ | ⟨_, still, _⟩
  · rw [next]
  · rw [next, last]
    rfl
  · exact absurd still moves

theorem cursor_next_of_not_stalled (moved : h.next.cursor ≠ h.cursor) :
    h.next.cursor = h.cursor + 1 := by
  rcases next_cases h with ⟨_, next⟩ | ⟨_, moves, _⟩ | ⟨_, _, next⟩
  · rw [next]
  · exact cursor_next_of_moving moves
  · rw [next] at moved
    contradiction

theorem Follows.next_eq_self_of_still (follows : h.Follows first)
    (still : L.step h.current = h.current) : h.next = h := by
  rcases next_cases h with ⟨more, _⟩ | ⟨_, moves, _⟩ | ⟨_, _, next⟩
  · -- A recorded step moved, so a state that stands still has nothing ahead of it.
    have moved := follows.moved h.cursor more
    rw [Function.iterate_succ_apply', ← follows.current_eq] at moved
    exact absurd still.symm moved
  · exact absurd still moves
  · exact next

theorem Follows.proceed_eq_self_of_rests (follows : h.Follows first)
    (rests : L.Rests h.current) : h.proceed = h := by
  rcases rests with ended | still
  · exact proceed_of_ended h ended
  · unfold proceed
    split
    · rfl
    · exact follows.next_eq_self_of_still still

theorem proceed_eq_next_of_not_rests (going : ¬ L.Rests h.current) : h.proceed = h.next := by
  apply proceed_of_not_ended
  cases ended : L.ended h.current with
  | false => rfl
  | true => exact absurd (Or.inl ended) going

/-- Moving on as often as steps are left below a limit leads to the first step at which
the program rests or the limit is reached. -/
theorem Follows.isLeast_cursor_iterate_proceed (follows : h.Follows first) (limit n : Nat)
    (enough : n = limit - h.cursor) :
    IsLeast {k | h.cursor ≤ k ∧ (L.Rests (L.step^[k] first) ∨ limit ≤ k)}
      (proceed^[n] h).cursor := by
  induction n generalizing h with
  | zero =>
      have reached : limit ≤ h.cursor := by omega
      exact ⟨⟨Nat.le_refl _, Or.inr reached⟩, fun _ found => found.1⟩
  | succ n ih =>
      rw [Function.iterate_succ_apply]
      by_cases rests : L.Rests h.current
      · have fixed := follows.proceed_eq_self_of_rests rests
        rw [fixed, Function.iterate_fixed fixed]
        rw [follows.current_eq] at rests
        exact ⟨⟨Nat.le_refl _, Or.inl rests⟩, fun _ found => found.1⟩
      · have moved : h.next.cursor = h.cursor + 1 :=
          cursor_next_of_moving fun still => rests (Or.inr still)
        rw [proceed_eq_next_of_not_rests rests]
        obtain ⟨⟨above, stops⟩, least⟩ := ih follows.next (by omega)
        refine ⟨⟨by omega, stops⟩, ?_⟩
        rintro k ⟨above, stop⟩
        -- The step the cursor is on is none of those, so the first one lies behind it.
        have later : k ≠ h.cursor := by
          rintro rfl
          rcases stop with rested | reached
          · rw [← follows.current_eq] at rested
            exact rests rested
          · omega
        exact least ⟨by omega, stop⟩

end History

/-- Whether a loop that has seen a snapshot goes on. -/
def Snapshot.Going (limit : Nat) (seen : Snapshot) : Prop :=
  seen.terminated = false ∧ seen.step < limit

namespace Engine

variable {L : Language}

/-! ## The loop -/

/-- The loop without a ticker, entered with an engine and the snapshot seen last, and
what it is left with. -/
inductive Loop (limit : Nat) (host : Host) :
    Engine L → Snapshot → Engine L → Snapshot → Prop where
  | leave {e : Engine L} {seen : Snapshot} (halted : ¬ seen.Going limit) :
      Loop limit host e seen e seen
  | stall {e after : Engine L} {seen : Snapshot} (going : seen.Going limit)
      (stepped : after = e.obey host (.dispatch .next))
      (stalled : after.snapshot.step = seen.step) :
      Loop limit host e seen after after.snapshot
  | again {e after last : Engine L} {seen final : Snapshot} (going : seen.Going limit)
      (stepped : after = e.obey host (.dispatch .next))
      (moved : after.snapshot.step ≠ seen.step)
      (onward : Loop limit host after after.snapshot last final) :
      Loop limit host e seen last final

theorem Loop.unique {limit : Nat} {host : Host} {e last other : Engine L}
    {seen final otherFinal : Snapshot} (loop : Loop limit host e seen last final)
    (run : Loop limit host e seen other otherFinal) :
    other = last ∧ otherFinal = final := by
  induction loop with
  | leave halted =>
      cases run with
      | leave _ => exact ⟨rfl, rfl⟩
      | stall going _ _ => exact absurd going halted
      | again going _ _ _ => exact absurd going halted
  | stall going stepped stalled =>
      subst stepped
      cases run with
      | leave halted => exact absurd going halted
      | stall _ stepped _ =>
          subst stepped
          exact ⟨rfl, rfl⟩
      | again _ stepped moved _ =>
          subst stepped
          exact absurd stalled moved
  | again going stepped moved _ ih =>
      subst stepped
      cases run with
      | leave halted => exact absurd going halted
      | stall _ stepped stalled =>
          subst stepped
          exact absurd stalled moved
      | again _ stepped _ onward =>
          subst stepped
          exact ih onward

/-- The loop ends within as many steps as are left below the limit. -/
theorem loop_runFor (limit : Nat) (host : Host) (fuel : Nat) (run : Logged (Engine L))
    (enough : fuel = limit - run.value.history.cursor) :
    Loop limit host run.value run.value.snapshot
      (runFor fuel run).value (runFor fuel run).value.snapshot := by
  induction fuel generalizing run with
  | zero =>
      have reached : limit ≤ run.value.history.cursor := by omega
      exact .leave fun going => Nat.not_lt.mpr reached going.2
  | succ fuel ih =>
      have below : run.value.history.cursor < limit := by omega
      cases ended : run.value.terminated with
      | true =>
          have left : runFor (fuel + 1) run = run := by simp [runFor, ended]
          rw [left]
          exact .leave fun going => Bool.noConfusion (ended.symm.trans going.1)
      | false =>
          by_cases stalled : run.value.history.next.cursor = run.value.history.cursor
          · have left : (runFor (fuel + 1) run).value =
                run.value.obey host (.dispatch .next) := by
              simp [runFor, ended, perform, forward, stalled, obey]
            rw [left]
            exact .stall ⟨ended, below⟩ rfl stalled
          · have moved := History.cursor_next_of_not_stalled stalled
            have again : runFor (fuel + 1) run =
                runFor fuel (run >>= fun e => e.dispatch {} .next) := by
              simp [runFor, ended, perform, forward, stalled]
            have onward := ih (run >>= fun e => e.dispatch {} .next) (by
              simp only [Logged.value_bind, value_dispatch, perform, forward,
                Logged.value_pure, moved]
              omega)
            rw [again]
            exact .again ⟨ended, below⟩ rfl stalled onward

theorem loop_iff_runToEnd (e last : Engine L) (limit : Nat) (host : Host)
    (final : Snapshot) :
    Loop limit host e e.snapshot last final ↔
      last = (e.runToEnd limit).value ∧ final = (e.runToEnd limit).value.snapshot := by
  have reached : Loop limit host e e.snapshot (e.runToEnd limit).value
      (e.runToEnd limit).value.snapshot := loop_runFor limit host _ (pure e) rfl
  constructor
  · intro run
    exact reached.unique run
  · rintro ⟨rfl, rfl⟩
    exact reached

/-- After any script, the run without a ticker comes to an end.  It leaves the cursor on
the first step, from where the cursor was, whose state has ended, whose state stands
still, or which reaches the limit; it returns the snapshot of the engine it leaves
behind, and it changes neither the program nor the pause nor the ticker. -/
theorem play_runToEnd_stops_at_first_rest (L : Language) (program : Program) (pace : Pace)
    (script : Script) (limit : Nat) (host : Host) :
    let e := (create L program pace).value.play script
    let state := fun k => L.step^[k] (L.seed e.program)
    let last := (e.runToEnd limit).value
    (∀ other final, Loop limit host e e.snapshot other final ↔
        other = last ∧ final = last.snapshot) ∧
      IsLeast {k | e.history.cursor ≤ k ∧
          (L.ended (state k) = true ∨ L.step (state k) = state k ∨ limit ≤ k)}
        last.history.cursor ∧
      last.program = e.program ∧ last.paused = e.paused ∧ last.ticker = e.ticker := by
  intro e state last
  have sound : e.Sound := (sound_fresh program pace).play script
  have reached : last =
      { e with history := History.proceed^[limit - e.history.cursor] e.history } :=
    value_runToEnd e limit
  have least := sound.follows.isLeast_cursor_iterate_proceed limit _ rfl
  refine ⟨?_, ?_, by rw [reached], by rw [reached], by rw [reached]⟩
  · intro other final
    exact loop_iff_runToEnd e other limit host final
  · rw [reached]
    simpa only [Language.Rests, or_assoc] using least

end Engine

end StepLab
