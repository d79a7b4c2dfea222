import Mathlib.Data.List.Induction
import StepLab.Language.StunStep
import StepLab.Proofs.Engine.Script

/-! # Pausing and the step interval

Whether an engine is paused and at which interval its ticker runs are kept in two places
and written by every action on its own.  Together they are the tempo of an engine.  An
action that asks for an interval sets it; anything else, a poll included, keeps the tempo
or stops it.  So an engine is paused exactly when its ticker is idle, the interval of a
running ticker is the one asked for last, and only `run` and `fastForward` end a pause. -/

set_option autoImplicit false

namespace StepLab

theorem Ticker.interval_eq_none_iff {μ : Type} (t : Ticker μ) :
    t.interval = none ↔ t = .idle := by
  cases t with
  | mk active => simp [interval, idle]

theorem Action.interval?_eq_some_iff (pace : Pace) (paused : Bool) (action : Action)
    (interval : Nat) :
    action.interval? pace paused = some interval ↔
      (action = .run ∧ interval = pace.interval) ∨
      (action = .fastForward ∧ paused = true ∧
        interval = pace.clamp pace.fastFromPaused) ∨
      (action = .fastForward ∧ paused = false ∧
        interval = pace.clamp pace.fastFromRunning) := by
  cases action with
  | run => simp [interval?, eq_comm]
  | fastForward => cases paused <;> simp [interval?, Pace.fast, eq_comm]
  | _ => simp [interval?]

namespace Command

/-- Whether a command asks the ticker to run. -/
def Starts (command : Command) : Prop :=
  command = .dispatch .run ∨ command = .dispatch .fastForward

theorem starts_of_interval? {pace : Pace} {paused : Bool} {action : Action} {interval : Nat}
    (asked : action.interval? pace paused = some interval) :
    (Command.dispatch action).Starts := by
  rw [Action.interval?_eq_some_iff] at asked
  rcases asked with ⟨rfl, _⟩ | ⟨rfl, _⟩ | ⟨rfl, _⟩
  · exact Or.inl rfl
  · exact Or.inr rfl
  · exact Or.inr rfl

end Command

namespace Engine

variable {L : Language}

/-- Whether the engine is paused, and at which interval its ticker runs. -/
def tempo (e : Engine L) : Bool × Option Nat := (e.paused, e.ticker.interval)

theorem pace_perform (e : Engine L) (host : Host) (action : Action) :
    (e.perform host action).value.pace = e.pace := by
  cases action with
  | tick =>
      cases ended : e.terminated with
      | true => rw [perform_tick_of_ended e host ended]
      | false => rw [perform_tick_of_going e host ended]
  | reset =>
      cases agreed : host.confirm with
      | true => rw [perform_reset_of_agreed e host agreed]
      | false => rw [perform_reset_of_declined e host agreed]
  | _ => rfl

theorem pace_obey (e : Engine L) (host : Host) (command : Command) :
    (e.obey host command).pace = e.pace := by
  cases command with
  | dispatch action => exact pace_perform e host action
  | poll =>
      rcases poll_cases e host with ⟨_, nothing⟩ | ⟨tick, _, _, delivered⟩
      · rw [obey, nothing]
      · rw [obey, delivered]
        exact pace_perform _ host tick.message

theorem pace_play (e : Engine L) (script : Script) : (e.play script).pace = e.pace := by
  induction script generalizing e with
  | nil => rfl
  | cons entry rest ih =>
      obtain ⟨host, command⟩ := entry
      exact (ih (e.obey host command)).trans (pace_obey e host command)

theorem play_append (e : Engine L) (before after : Script) :
    e.play (before ++ after) = (e.play before).play after := by
  induction before generalizing e with
  | nil => rfl
  | cons entry rest ih =>
      obtain ⟨host, command⟩ := entry
      exact ih (e.obey host command)

/-! ## One command -/

theorem tempo_perform_cases (e : Engine L) (host : Host) (action : Action) :
    (∃ interval, action.interval? e.pace e.paused = some interval ∧
      (e.perform host action).value.tempo = (false, some interval)) ∨
    (action.interval? e.pace e.paused = none ∧
      ((e.perform host action).value.tempo = (true, none) ∨
        (e.perform host action).value.tempo = e.tempo)) := by
  rcases ticker_perform_cases e host action with
    ⟨interval, asked, going, started⟩ | ⟨silent, ⟨paused, idle⟩ | ⟨same, kept⟩⟩
  · left
    refine ⟨interval, asked, ?_⟩
    rw [tempo, going, started]
    rfl
  · right
    refine ⟨silent, Or.inl ?_⟩
    rw [tempo, paused, idle]
    rfl
  · right
    refine ⟨silent, Or.inr ?_⟩
    rw [tempo, same, kept]
    rfl

theorem tempo_ticking {e : Engine L} {tick : Tick Action} (active : e.ticker.active = some tick)
    (deadline : Nat) : (e.ticking { tick with deadline }).tempo = e.tempo := by
  simp [tempo, ticking, Ticker.interval, active]

/-- A poll delivers nothing but a tick, so it never sets a tempo of its own. -/
theorem Sound.tempo_poll {e : Engine L} (sound : e.Sound) (host : Host) :
    (e.poll host).value.2.tempo = (true, none) ∨ (e.poll host).value.2.tempo = e.tempo := by
  rcases poll_cases e host with ⟨_, nothing⟩ | ⟨tick, active, _, delivered⟩
  · right
    rw [nothing]
  · rw [delivered]
    have moved := tempo_ticking active (host.now + tick.interval)
    rcases tempo_perform_cases _ host tick.message with ⟨_, asked, _⟩ | ⟨_, stopped | kept⟩
    · rw [sound.ticks tick active] at asked
      contradiction
    · exact Or.inl stopped
    · exact Or.inr (kept.trans moved)

/-- A command starts the ticker at the interval it asks for, or asks for none and keeps or
stops the tempo. -/
theorem Sound.tempo_obey_cases {e : Engine L} (sound : e.Sound) (host : Host)
    (command : Command) :
    (∃ action interval, command = .dispatch action ∧
      action.interval? e.pace e.paused = some interval ∧
      (e.obey host command).tempo = (false, some interval)) ∨
    (¬ command.Starts ∧
      ((e.obey host command).tempo = (true, none) ∨
        (e.obey host command).tempo = e.tempo)) := by
  cases command with
  | dispatch action =>
      rcases tempo_perform_cases e host action with ⟨interval, asked, set⟩ | ⟨silent, rest⟩
      · exact Or.inl ⟨action, interval, rfl, asked, set⟩
      · refine Or.inr ⟨?_, rest⟩
        rintro (starts | starts)
        · cases starts
          contradiction
        · cases starts
          contradiction
  | poll =>
      refine Or.inr ⟨?_, sound.tempo_poll host⟩
      rintro (starts | starts)
      · contradiction
      · contradiction

/-! ## Scripts -/

/-- An engine whose pause flag and ticker tell the same. -/
def Steady (e : Engine L) : Prop := e.paused = true ↔ e.ticker = .idle

theorem steady_iff_tempo (e : Engine L) :
    e.Steady ↔ (e.tempo.1 = true ↔ e.tempo.2 = none) := by
  rw [Steady, ← Ticker.interval_eq_none_iff]
  rfl

theorem steady_fresh (program : Program) (pace : Pace) : (fresh L program pace).Steady :=
  ⟨fun _ => rfl, fun _ => rfl⟩

theorem Sound.steady_obey {e : Engine L} (sound : e.Sound) (steady : e.Steady) (host : Host)
    (command : Command) : (e.obey host command).Steady := by
  rw [steady_iff_tempo] at steady ⊢
  rcases sound.tempo_obey_cases host command with ⟨_, _, _, _, set⟩ | ⟨_, stopped | kept⟩
  · simp [set]
  · simp [stopped]
  · rw [kept]
    exact steady

theorem Sound.steady_play {e : Engine L} (sound : e.Sound) (steady : e.Steady)
    (script : Script) : (e.play script).Steady := by
  induction script generalizing e with
  | nil => exact steady
  | cons entry rest ih =>
      obtain ⟨host, command⟩ := entry
      exact ih (sound.obey host command) (sound.steady_obey steady host command)

theorem Sound.paused_play {e : Engine L} (sound : e.Sound) (paused : e.paused = true)
    (script : Script) (silent : ∀ entry ∈ script, ¬ entry.2.Starts) :
    (e.play script).paused = true := by
  induction script generalizing e with
  | nil => exact paused
  | cons entry rest ih =>
      obtain ⟨host, command⟩ := entry
      have still : (e.obey host command).paused = true := by
        rcases sound.tempo_obey_cases host command with
          ⟨action, _, rfl, asked, _⟩ | ⟨_, stopped | kept⟩
        · exact absurd (Command.starts_of_interval? asked) (silent _ List.mem_cons_self)
        · exact congrArg Prod.fst stopped
        · exact (congrArg Prod.fst kept).trans paused
      exact ih (sound.obey host command) still fun entry member =>
        silent entry (List.mem_cons_of_mem _ member)

/-- The interval of a ticker that a script has left running is the one that the latest
start in the script asked for. -/
theorem Sound.interval_play {e : Engine L} (sound : e.Sound) (idle : e.ticker = .idle)
    (script : Script) (interval : Nat)
    (running : (e.play script).ticker.interval = some interval) :
    ∃ before host action after, script = before ++ (host, .dispatch action) :: after ∧
      (∀ entry ∈ after, ¬ entry.2.Starts) ∧
      action.interval? e.pace (e.play before).paused = some interval := by
  -- From the end: the last command asks for the interval, or keeps what was there before.
  induction script using List.reverseRecOn with
  | nil =>
      rw [Engine.play, idle] at running
      contradiction
  | append_singleton script entry ih =>
      obtain ⟨host, command⟩ := entry
      rw [play_append] at running
      rcases (sound.play script).tempo_obey_cases host command with
        ⟨action, asked, rfl, asks, set⟩ | ⟨silent, stopped | kept⟩
      · have same : some asked = some interval := (congrArg Prod.snd set).symm.trans running
        rw [pace_play, same] at asks
        exact ⟨script, host, action, [], rfl, by simp, asks⟩
      · have nothing : none = some interval := (congrArg Prod.snd stopped).symm.trans running
        contradiction
      · obtain ⟨before, first, action, after, split, quiet, asks⟩ :=
          ih ((congrArg Prod.snd kept).symm.trans running)
        refine ⟨before, first, action, after ++ [(host, command)], by simp [split], ?_, asks⟩
        intro entry member
        rcases List.mem_append.mp member with old | new
        · exact quiet entry old
        · rw [List.mem_singleton.mp new]
          exact silent

/-- Going forward, a tick, a declined reset or a poll. -/
def Passive : Host × Command → Prop
  | (_, .poll) => True
  | (_, .dispatch .next) => True
  | (_, .dispatch .tick) => True
  | (host, .dispatch .reset) => host.confirm = false
  | _ => False

theorem not_starts_of_passive {entry : Host × Command} (passive : Passive entry) :
    ¬ entry.2.Starts := by
  obtain ⟨host, command⟩ := entry
  rintro (rfl | rfl)
  · exact passive
  · exact passive

/-- After any script an engine is paused exactly when its ticker is idle.  A running
ticker sends ticks, at the normal interval if the latest start was a `run`, and at the
fast interval for a paused or for a running engine, raised to the floor, if it was a
`fastForward`.  No sequence of passive commands ends a pause. -/
theorem play_paused_iff_idle (L : Language) (program : Program) (pace : Pace)
    (script : Script) :
    let start := (create L program pace).value
    let e := start.play script
    (e.paused = true ↔ e.ticker = .idle) ∧
      (∀ tick, e.ticker.active = some tick → tick.message = .tick ∧
        ∃ before host action after, script = before ++ (host, .dispatch action) :: after ∧
          (∀ entry ∈ after,
            entry.2 ≠ .dispatch .run ∧ entry.2 ≠ .dispatch .fastForward) ∧
          ((action = .run ∧ tick.interval = pace.interval) ∨
            (action = .fastForward ∧ (start.play before).paused = true ∧
              tick.interval = pace.clamp pace.fastFromPaused) ∨
            (action = .fastForward ∧ (start.play before).paused = false ∧
              tick.interval = pace.clamp pace.fastFromRunning))) ∧
      ∀ more, (∀ entry ∈ more, Passive entry) → e.paused = true →
        (e.play more).paused = true := by
  intro start e
  have seeded : start.Sound := sound_fresh program pace
  have sound : e.Sound := seeded.play script
  refine ⟨seeded.steady_play (steady_fresh program pace) script, ?_, ?_⟩
  · intro tick active
    have running : e.ticker.interval = some tick.interval := by
      simp [Ticker.interval, active]
    obtain ⟨before, host, action, after, split, silent, asks⟩ :=
      seeded.interval_play rfl script tick.interval running
    refine ⟨sound.ticks tick active, before, host, action, after, split, ?_, ?_⟩
    · intro entry member
      exact not_or.mp (silent entry member)
    · exact (Action.interval?_eq_some_iff pace _ action _).mp asks
  · intro more passive paused
    exact sound.paused_play paused more fun entry member =>
      not_starts_of_passive (passive entry member)

/-- An engine that is told to run fast twice, with a tick and a declined reset on the way,
is not paused; once it has been stopped, late polls and steps leave it paused. -/
theorem play_paused_iff_idle_of_sped_up :
    let start := (create stunStep (.text "+++") {}).value
    let fast : Script := [({}, .dispatch .fastForward), ({ now := 50 }, .poll),
      ({ now := 60 }, .dispatch .fastForward), ({ now := 65 }, .dispatch .reset)]
    let stopped : Script := fast ++ [({ now := 70 }, .dispatch .stop)]
    (start.play fast).ticker.active =
        some { message := .tick, interval := 10, deadline := 70 } ∧
      ¬ (start.play fast).paused = true ∧
      ((start.play stopped).play [({ now := 500 }, .poll), ({}, .dispatch .next),
        ({}, .dispatch .reset)]).paused = true := by
  intro start fast stopped
  have running : (start.play fast).ticker.active =
      some { message := .tick, interval := 10, deadline := 70 } := by decide +kernel
  refine ⟨running, ?_, ?_⟩
  · intro paused
    have idle := (play_paused_iff_idle stunStep (.text "+++") {} fast).1.mp paused
    rw [idle] at running
    contradiction
  · refine (play_paused_iff_idle stunStep (.text "+++") {} stopped).2.2 _ ?_ (by decide +kernel)
    intro entry member
    simp only [List.mem_cons, List.not_mem_nil, or_false] at member
    rcases member with rfl | rfl | rfl
    · trivial
    · trivial
    · rfl

end Engine

end StepLab
