import StepLab.Engine.Action
import StepLab.Engine.History
import StepLab.Engine.Pace
import StepLab.Engine.Snapshot
import StepLab.Engine.Ticker

/-! # Engines

An engine runs one program of one language, by steps or by the ticks of its ticker. -/

set_option autoImplicit false

namespace StepLab

structure Engine (L : Language) where
  history : History L
  program : Program
  ticker : Ticker Action := .idle
  pace : Pace := {}
  paused : Bool := true

namespace Engine

variable {L : Language}

def state (e : Engine L) : L.State := e.history.current

def terminated (e : Engine L) : Bool := L.ended e.state

def snapshot (e : Engine L) : Snapshot where
  name := L.name
  displays := L.displays
  state := L.view e.state
  paused := e.paused
  terminated := e.terminated
  fastForward := L.displays.fastForward
  step := e.history.cursor
  historySize := e.history.size
  interval := e.ticker.interval

def record (L : Language) (level : Level) (message : String)
    (fields : List (String × FieldValue)) : Record where
  level := level
  component := .engine
  message := message
  fields := ("language", .quoted L.name) :: fields

def fresh (L : Language) (program : Program) (pace : Pace) : Engine L where
  history := History.start (L.seed program)
  program := program
  pace := pace

def create (L : Language) (program : Program) (pace : Pace) : Logged (Engine L) := do
  Logged.emit (record L .debug "engine created" [])
  return fresh L program pace

def start (e : Engine L) (interval now : Nat) : Logged (Engine L) := do
  let ticker ← e.ticker.start .tick interval now
  return { e with ticker, paused := false }

def stop (e : Engine L) : Logged (Engine L) := do
  let ticker ← e.ticker.clear
  return { e with ticker, paused := true }

def restart (e : Engine L) (program : Program) : Logged (Engine L) := do
  let ticker ← e.ticker.clear
  let history ← e.history.restart (L.seed program)
  return { e with history, program, ticker, paused := true }

def forward (e : Engine L) : Engine L :=
  match e with
  | ⟨history, program, ticker, pace, paused⟩ =>
      { history := history.next, program, ticker, pace, paused }

def perform (e : Engine L) (host : Host) : Action → Logged (Engine L)
  | .run => e.start e.pace.interval host.now
  | .stop => e.stop
  | .tick =>
      if e.terminated then do
        Logged.emit (record L .info "program ended" [("step", .number e.history.cursor)])
        e.stop
      else return e.forward
  | .reset =>
      if host.confirm then e.restart e.program
      else do
        Logged.emit (record L .debug "reset declined" [])
        return e
  | .prev => do
      let ticker ← e.ticker.clear
      return { e with history := e.history.prev, ticker, paused := true }
  | .next => return e.forward
  | .fastForward => e.start (e.pace.fast e.paused) host.now
  | .edit program => e.restart program

def dispatchRecord (e : Engine L) (action : Action) : Record :=
  record L .debug "dispatch"
    [("action", .quoted action.name), ("step", .number e.history.cursor)]

def dispatch (e : Engine L) (host : Host) (action : Action) : Logged (Engine L) := do
  Logged.emit (e.dispatchRecord action)
  e.perform host action

@[simp] theorem value_dispatch (e : Engine L) (host : Host) (action : Action) :
    (e.dispatch host action).value = (e.perform host action).value := rfl

/-- Delivers a tick if one is due, and says whether it did. -/
def poll (e : Engine L) (host : Host) : Logged (Bool × Engine L) :=
  match e.ticker.poll host.now with
  | (none, _) => return (false, e)
  | (some action, ticker) => do
      let e ← dispatch { e with ticker } host action
      return (true, e)

def fixpointRecord (step : Nat) : Record where
  level := .info
  component := .engine
  message := "program reached a fixpoint"
  fields := [("step", .number step)]

/-- Steps at most `fuel` times, until the program ends or stands still. -/
def runFor : Nat → Logged (Engine L) → Logged (Engine L)
  | 0, run => run
  | fuel + 1, run =>
      if run.value.terminated then run
      else
        let before := run.value.history.cursor
        let after := run >>= fun e => e.dispatch {} .next
        if after.value.history.cursor = before then
          after >>= fun e => do
            Logged.emit (fixpointRecord before)
            return e
        else runFor fuel after

/-- Steps until the program ends, stands still, or `maxSteps` steps are reached. -/
def runToEnd (e : Engine L) (maxSteps : Nat) : Logged (Engine L) :=
  runFor (maxSteps - e.history.cursor) (pure e)

end Engine

end StepLab
