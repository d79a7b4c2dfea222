import StepLab.Engine.Basic
import StepLab.Proofs.Engine.Orbit

/-! # Scripts of an engine

A script is what a session does to an engine: actions and polls in any order, each
with the clock reading and the answer its host gives.  An engine is sound when its
history follows the first state of its own program and its ticker sends nothing but
ticks.  Every command keeps this, so after any script the history is the orbit of
the program installed last. -/

set_option autoImplicit false

namespace StepLab

/-- The program that an action puts in place of the one before. -/
def Action.installs : Action → Option Program
  | .edit program => some program
  | _ => none

/-- The interval at which an action starts the ticker of an engine. -/
def Action.interval? (pace : Pace) (paused : Bool) : Action → Option Nat
  | .run => some pace.interval
  | .fastForward => some (pace.fast paused)
  | _ => none

namespace Engine

variable {L : Language}

/-! ## What one action does -/

theorem perform_tick_of_ended (e : Engine L) (host : Host) (ended : e.terminated = true) :
    (e.perform host .tick).value = { e with ticker := .idle, paused := true } := by
  simp [perform, ended, stop]

theorem perform_tick_of_going (e : Engine L) (host : Host) (going : e.terminated = false) :
    (e.perform host .tick).value = { e with history := e.history.next } := by
  simp [perform, going, forward]

theorem perform_reset_of_agreed (e : Engine L) (host : Host) (agreed : host.confirm = true) :
    (e.perform host .reset).value =
      { e with
        history := History.start (L.seed e.program)
        ticker := .idle
        paused := true } := by
  simp [perform, agreed, restart]

theorem perform_reset_of_declined (e : Engine L) (host : Host)
    (declined : host.confirm = false) : (e.perform host .reset).value = e := by
  simp [perform, declined]

theorem program_perform (e : Engine L) (host : Host) (action : Action) :
    (e.perform host action).value.program = action.installs.getD e.program := by
  cases action with
  | tick =>
      cases ended : e.terminated with
      | true =>
          rw [perform_tick_of_ended e host ended]
          rfl
      | false =>
          rw [perform_tick_of_going e host ended]
          rfl
  | reset =>
      cases agreed : host.confirm with
      | true =>
          rw [perform_reset_of_agreed e host agreed]
          rfl
      | false =>
          rw [perform_reset_of_declined e host agreed]
          rfl
  | _ => rfl

/-- An action leaves the program and moves within its history, or starts over from
the first state of the program it leaves behind. -/
theorem history_perform_cases (e : Engine L) (host : Host) (action : Action) :
    ((e.perform host action).value.program = e.program ∧
      ((e.perform host action).value.history = e.history ∨
        (e.perform host action).value.history = e.history.next ∨
        (e.perform host action).value.history = e.history.prev)) ∨
    (e.perform host action).value.history =
      History.start (L.seed (e.perform host action).value.program) := by
  cases action with
  | run => exact Or.inl ⟨rfl, Or.inl rfl⟩
  | stop => exact Or.inl ⟨rfl, Or.inl rfl⟩
  | reset =>
      cases agreed : host.confirm with
      | true =>
          rw [perform_reset_of_agreed e host agreed]
          exact Or.inr rfl
      | false =>
          rw [perform_reset_of_declined e host agreed]
          exact Or.inl ⟨rfl, Or.inl rfl⟩
  | prev => exact Or.inl ⟨rfl, Or.inr (Or.inr rfl)⟩
  | next => exact Or.inl ⟨rfl, Or.inr (Or.inl rfl)⟩
  | tick =>
      cases ended : e.terminated with
      | true =>
          rw [perform_tick_of_ended e host ended]
          exact Or.inl ⟨rfl, Or.inl rfl⟩
      | false =>
          rw [perform_tick_of_going e host ended]
          exact Or.inl ⟨rfl, Or.inr (Or.inl rfl)⟩
  | fastForward => exact Or.inl ⟨rfl, Or.inl rfl⟩
  | edit program => exact Or.inr rfl

/-- An action that asks for an interval starts the ticker with ticks to send at it; any
other action leaves the ticker and the pause alone, or stops the ticker and pauses. -/
theorem ticker_perform_cases (e : Engine L) (host : Host) (action : Action) :
    (∃ interval, action.interval? e.pace e.paused = some interval ∧
      (e.perform host action).value.paused = false ∧
      (e.perform host action).value.ticker =
        { active := some { message := .tick, interval, deadline := host.now + interval } }) ∨
    (action.interval? e.pace e.paused = none ∧
      (((e.perform host action).value.paused = true ∧
          (e.perform host action).value.ticker = .idle) ∨
        ((e.perform host action).value.paused = e.paused ∧
          (e.perform host action).value.ticker = e.ticker))) := by
  cases action with
  | run => exact Or.inl ⟨_, rfl, rfl, rfl⟩
  | stop => exact Or.inr ⟨rfl, Or.inl ⟨rfl, rfl⟩⟩
  | reset =>
      cases agreed : host.confirm with
      | true =>
          rw [perform_reset_of_agreed e host agreed]
          exact Or.inr ⟨rfl, Or.inl ⟨rfl, rfl⟩⟩
      | false =>
          rw [perform_reset_of_declined e host agreed]
          exact Or.inr ⟨rfl, Or.inr ⟨rfl, rfl⟩⟩
  | prev => exact Or.inr ⟨rfl, Or.inl ⟨rfl, rfl⟩⟩
  | next => exact Or.inr ⟨rfl, Or.inr ⟨rfl, rfl⟩⟩
  | tick =>
      cases ended : e.terminated with
      | true =>
          rw [perform_tick_of_ended e host ended]
          exact Or.inr ⟨rfl, Or.inl ⟨rfl, rfl⟩⟩
      | false =>
          rw [perform_tick_of_going e host ended]
          exact Or.inr ⟨rfl, Or.inr ⟨rfl, rfl⟩⟩
  | fastForward => exact Or.inl ⟨_, rfl, rfl, rfl⟩
  | edit program => exact Or.inr ⟨rfl, Or.inl ⟨rfl, rfl⟩⟩

def ticking (e : Engine L) (tick : Tick Action) : Engine L :=
  { e with ticker := { active := some tick } }

/-- A poll before any deadline does nothing; a poll in time hands the message of the
ticker to the engine. -/
theorem poll_cases (e : Engine L) (host : Host) :
    ((∀ deadline ∈ e.ticker.deadline, host.now < deadline) ∧
      (e.poll host).value = (false, e)) ∨
    ∃ tick, e.ticker.active = some tick ∧ tick.deadline ≤ host.now ∧
      (e.poll host).value =
        (true, ((e.ticking { tick with deadline := host.now + tick.interval }).perform
          host tick.message).value) := by
  cases active : e.ticker.active with
  | none =>
      left
      simp [poll, Ticker.poll, Ticker.deadline, active]
  | some tick =>
      by_cases early : host.now < tick.deadline
      · left
        simp [poll, Ticker.poll, Ticker.deadline, active, early]
      · right
        refine ⟨tick, rfl, Nat.le_of_not_lt early, ?_⟩
        simp [poll, Ticker.poll, active, early, ticking]

/-! ## Sound engines -/

/-- The history belongs to the program, and the ticker sends only ticks. -/
structure Sound (e : Engine L) : Prop where
  follows : e.history.Follows (L.seed e.program)
  ticks : ∀ tick, e.ticker.active = some tick → tick.message = .tick

theorem sound_fresh (program : Program) (pace : Pace) : (fresh L program pace).Sound where
  follows := History.follows_start (L.seed program)
  ticks tick active := by simp [fresh, Ticker.idle] at active

theorem Sound.perform {e : Engine L} (sound : e.Sound) (host : Host) (action : Action) :
    (e.perform host action).value.Sound := by
  constructor
  · rcases history_perform_cases e host action with ⟨program, kept | forth | back⟩ | again
    · rw [program, kept]
      exact sound.follows
    · rw [program, forth]
      exact sound.follows.next
    · rw [program, back]
      exact sound.follows.prev
    · rw [again]
      exact History.follows_start _
  · intro tick active
    rcases ticker_perform_cases e host action with
      ⟨interval, _, _, started⟩ | ⟨_, ⟨_, idle⟩ | ⟨_, kept⟩⟩
    · rw [started] at active
      cases active
      rfl
    · simp [idle, Ticker.idle] at active
    · exact sound.ticks tick (kept ▸ active)

theorem Sound.ticking {e : Engine L} (sound : e.Sound) (tick : Tick Action)
    (message : tick.message = .tick) : (e.ticking tick).Sound where
  follows := sound.follows
  ticks other active := by
    cases active
    exact message

theorem Sound.poll {e : Engine L} (sound : e.Sound) (host : Host) :
    (e.poll host).value.2.Sound := by
  rcases poll_cases e host with ⟨_, nothing⟩ | ⟨tick, active, _, delivered⟩
  · rw [nothing]
    exact sound
  · rw [delivered]
    refine Sound.perform (sound.ticking _ ?_) host tick.message
    exact sound.ticks tick active

theorem Sound.program_poll {e : Engine L} (sound : e.Sound) (host : Host) :
    (e.poll host).value.2.program = e.program := by
  rcases poll_cases e host with ⟨_, nothing⟩ | ⟨tick, active, _, delivered⟩
  · rw [nothing]
  · rw [delivered, program_perform, sound.ticks tick active]
    rfl

theorem Sound.state_eq {e : Engine L} (sound : e.Sound) :
    e.state = L.step^[e.history.cursor] (L.seed e.program) :=
  sound.follows.current_eq

end Engine

/-! ## Scripts -/

/-- What a session tells its engine. -/
inductive Command where
  | dispatch (action : Action)
  | poll
  deriving DecidableEq

def Command.installs : Command → Option Program
  | .dispatch action => action.installs
  | .poll => none

abbrev Script := List (Host × Command)

/-- The program installed last, `program` being the one before the script. -/
def Script.installed (program : Program) : Script → Program
  | [] => program
  | (_, command) :: rest => installed (command.installs.getD program) rest

namespace Engine

variable {L : Language}

def obey (e : Engine L) (host : Host) : Command → Engine L
  | .dispatch action => (e.dispatch host action).value
  | .poll => (e.poll host).value.2

def play (e : Engine L) : Script → Engine L
  | [] => e
  | (host, command) :: rest => (e.obey host command).play rest

theorem Sound.obey {e : Engine L} (sound : e.Sound) (host : Host) (command : Command) :
    (e.obey host command).Sound := by
  cases command with
  | dispatch action => exact sound.perform host action
  | poll => exact sound.poll host

theorem Sound.program_obey {e : Engine L} (sound : e.Sound) (host : Host)
    (command : Command) :
    (e.obey host command).program = command.installs.getD e.program := by
  cases command with
  | dispatch action => exact program_perform e host action
  | poll => exact sound.program_poll host

theorem Sound.play {e : Engine L} (sound : e.Sound) (script : Script) :
    (e.play script).Sound := by
  induction script generalizing e with
  | nil => exact sound
  | cons entry rest ih =>
      obtain ⟨host, command⟩ := entry
      exact ih (sound.obey host command)

theorem Sound.program_play {e : Engine L} (sound : e.Sound) (script : Script) :
    (e.play script).program = script.installed e.program := by
  induction script generalizing e with
  | nil => rfl
  | cons entry rest ih =>
      obtain ⟨host, command⟩ := entry
      have later := ih (sound.obey host command)
      rw [sound.program_obey host command] at later
      exact later

/-- After any script an engine holds the program installed last, the list of that
program's states one step apart and without repetition in a row, and a cursor on the
state that as many steps lead to. -/
theorem play_traces_installed_program (L : Language) (program : Program) (pace : Pace)
    (script : Script) :
    let e := (create L program pace).value.play script
    let last := script.installed program
    e.program = last ∧
      e.history.states.toList =
        (List.range e.history.size).map (fun i => L.step^[i] (L.seed last)) ∧
      e.history.cursor < e.history.size ∧
      e.history.states.toList.IsChain (· ≠ ·) ∧
      e.state = L.step^[e.history.cursor] (L.seed last) := by
  intro e last
  have sound : e.Sound := (sound_fresh program pace).play script
  have holds : e.program = last := (sound_fresh program pace).program_play script
  rw [← holds]
  exact ⟨rfl, sound.follows.states_eq, e.history.cursor_lt, sound.follows.isChain_ne,
    sound.state_eq⟩

end Engine

end StepLab
