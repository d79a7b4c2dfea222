import StepLab.Language.Basic
import StepLab.Text.Lines

/-! # Snapshots

What is drawn of an engine, detached from it. -/

set_option autoImplicit false

namespace StepLab

structure Snapshot where
  name : String := ""
  displays : Displays := {}
  state : View := {}
  paused : Bool := false
  terminated : Bool := false
  fastForward : Bool := false
  step : Nat := 0
  /-- Computed states, those ahead of the current one included. -/
  historySize : Nat := 0
  interval : Option Nat := none
  deriving DecidableEq

namespace Snapshot

def currentOp (s : Snapshot) : Option Char :=
  s.state.cursor.bind fun i => s.state.code[i]?

/-- The output line by line; nothing follows a final newline. -/
def outputLines (s : Snapshot) : List (List Char) :=
  let pieces := Text.pieces s.state.output.toList
  if pieces.getLast? = some [] then pieces.dropLast else pieces

def ahead (s : Snapshot) : Nat := s.historySize - (s.step + 1)

def runLabel (s : Snapshot) : String :=
  if s.terminated then "ENDED" else if s.paused then "PAUSED" else "RUNNING"

end Snapshot

end StepLab
