import StepLab.CommandLine.Parser
import StepLab.Proofs.Engine.Tempo

/-! # The floor of the step interval

A command line sets the least step interval.  Running fast is held to it by the engine;
running at normal speed takes the interval of the pace as it is, so there the floor holds
only if the pace was made with it in mind.  That is done for an interval that is given,
and not for the one that is taken when none is: a floor above it is then not kept. -/

set_option autoImplicit false

namespace StepLab

theorem Pace.floor_le_clamp (pace : Pace) (interval : Nat) :
    pace.floor ≤ pace.clamp interval :=
  Nat.le_max_right interval pace.floor

/-- Every start is held to the floor if the normal interval is. -/
theorem Action.floor_le_interval? {pace : Pace} {paused : Bool} {action : Action}
    {interval : Nat} (normal : pace.floor ≤ pace.interval)
    (asked : action.interval? pace paused = some interval) : pace.floor ≤ interval := by
  rw [Action.interval?_eq_some_iff] at asked
  rcases asked with ⟨_, rfl⟩ | ⟨_, _, rfl⟩ | ⟨_, _, rfl⟩
  · exact normal
  · exact pace.floor_le_clamp _
  · exact pace.floor_le_clamp _

namespace Engine

variable {L : Language}

/-- No script makes the ticker of an engine run below the floor. -/
def KeepsFloor (e : Engine L) : Prop :=
  ∀ script tick, (e.play script).ticker.active = some tick → e.pace.floor ≤ tick.interval

/-- The engine of a program keeps the floor exactly when its normal interval does: the
first `run` shows it, and everything else is held to the floor. -/
theorem keepsFloor_create_iff (L : Language) (program : Program) (pace : Pace) :
    (create L program pace).value.KeepsFloor ↔ pace.floor ≤ pace.interval := by
  constructor
  · intro keeps
    exact keeps [({}, .dispatch .run)] _ rfl
  · intro normal script tick active
    have running : ((create L program pace).value.play script).ticker.interval =
        some tick.interval := by simp [Ticker.interval, active]
    obtain ⟨before, host, action, after, _, _, asked⟩ :=
      (sound_fresh program pace).interval_play rfl script tick.interval running
    exact Action.floor_le_interval? normal asked

end Engine

namespace Invocation

theorem floor_pace (i : Invocation) : i.pace.floor = i.minInterval.getD ({} : Pace).floor := rfl

/-- The normal interval of a command line is above its floor when it is given, and
otherwise only if the floor is not above the one that is taken instead. -/
theorem floor_le_interval_pace_iff (i : Invocation) :
    i.pace.floor ≤ i.pace.interval ↔
      i.interval.isSome = true ∨ i.pace.floor ≤ ({} : Pace).interval := by
  cases given : i.interval with
  | none => simp [pace, given]
  | some interval =>
      have raised : i.pace.interval = i.pace.clamp interval := by simp [pace, given, Pace.clamp]
      have kept := i.pace.floor_le_clamp interval
      rw [← raised] at kept
      simp [kept]

/-- The sessions of a command line keep its floor, whatever the language, the program and
the script, exactly when an interval is given or the floor is at most the interval that
is taken when none is. -/
theorem session_keepsFloor_iff (i : Invocation) (k : Kind) (program : Program) :
    (∀ script tick,
        ((Engine.create (k.language i.options) program i.options.pace).value.play
          script).ticker.active = some tick →
        i.pace.floor ≤ tick.interval) ↔
      i.interval.isSome = true ∨ i.minInterval.getD ({} : Pace).floor ≤ ({} : Pace).interval := by
  rw [← floor_pace, ← floor_le_interval_pace_iff]
  exact Engine.keepsFloor_create_iff (k.language i.options) program i.pace

/-- A floor of half a second without an interval: the first `run` ticks five times a
second. -/
theorem session_below_floor :
    ∃ i, Invocation.parse ["stun-step", "--min-interval", "500"] = .ok i ∧
      i.pace.floor = 500 ∧
      ((Engine.create (i.kind.language i.options) (.text "+") i.options.pace).value.play
        [({}, .dispatch .run)]).ticker.interval = some 200 :=
  ⟨_, rfl, rfl, rfl⟩

end Invocation

end StepLab
