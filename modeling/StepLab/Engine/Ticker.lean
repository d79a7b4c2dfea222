import StepLab.Log

/-! # Tickers

A ticker has no clock: every question comes with the time, in milliseconds.  A late tick is
sent once, and the next one is due a whole interval after it. -/

set_option autoImplicit false

namespace StepLab

structure Tick (μ : Type) where
  message : μ
  interval : Nat
  deadline : Nat
  deriving DecidableEq, Repr

structure Ticker (μ : Type) where
  active : Option (Tick μ) := none
  deriving DecidableEq, Repr

namespace Ticker

variable {μ : Type}

def idle : Ticker μ := {}

def isRunning (t : Ticker μ) : Bool := t.active.isSome

def interval (t : Ticker μ) : Option Nat := t.active.map Tick.interval

def deadline (t : Ticker μ) : Option Nat := t.active.map Tick.deadline

def remaining (t : Ticker μ) (now : Nat) : Option Nat :=
  t.deadline.map fun deadline => deadline - now

def clearedRecord : Record where
  level := .trace
  component := .ticker
  message := "timer cleared"

def startedRecord (interval : Nat) : Record where
  level := .trace
  component := .ticker
  message := "timer started"
  fields := [("interval_ms", .number interval)]

def clear (t : Ticker μ) : Logged (Ticker μ) := do
  Logged.emitIf t.isRunning clearedRecord
  return idle

@[simp] theorem value_clear (t : Ticker μ) : t.clear.value = idle := rfl

/-- Starts ticking, in place of anything that was running. -/
def start (t : Ticker μ) (message : μ) (interval now : Nat) : Logged (Ticker μ) := do
  let _ ← t.clear
  Logged.emit (startedRecord interval)
  return { active := some { message, interval, deadline := now + interval } }

@[simp] theorem value_start (t : Ticker μ) (message : μ) (interval now : Nat) :
    (t.start message interval now).value =
      { active := some { message, interval, deadline := now + interval } } := rfl

def poll (t : Ticker μ) (now : Nat) : Option μ × Ticker μ :=
  match t.active with
  | none => (none, t)
  | some tick =>
      if now < tick.deadline then (none, t)
      else (some tick.message, { active := some { tick with deadline := now + tick.interval } })

theorem poll_idle (now : Nat) : (idle : Ticker μ).poll now = (none, idle) := rfl

theorem poll_early (tick : Tick μ) (now : Nat) (early : now < tick.deadline) :
    ({ active := some tick } : Ticker μ).poll now = (none, { active := some tick }) := by
  simp [poll, early]

theorem poll_due (tick : Tick μ) (now : Nat) (due : tick.deadline ≤ now) :
    ({ active := some tick } : Ticker μ).poll now =
      (some tick.message, { active := some { tick with deadline := now + tick.interval } }) := by
  simp [poll, Nat.not_lt.2 due]

end Ticker

end StepLab
