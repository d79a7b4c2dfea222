import StepLab.Language.Kind

/-! # Invocations

What a command line asks for, and what that means for a session. -/

set_option autoImplicit false

namespace StepLab

structure Invocation where
  kind : Kind
  file : Option String := none
  input : String := ""
  grid : Option Dims := none
  seed : UInt64 := ({} : Options).seed
  interval : Option Nat := none
  minInterval : Option Nat := none
  headless : Bool := false
  maxSteps : Nat := 10000
  logFile : Option String := none
  verbosity : Nat := 0
  deriving DecidableEq

namespace Invocation

/-- The step intervals: a given interval is raised to the lower bound, which may
be given as well. -/
def pace (i : Invocation) : Pace :=
  let base : Pace := {}
  let floored : Pace := { base with floor := i.minInterval.getD base.floor }
  { floored with interval := (i.interval.map floored.clamp).getD base.interval }

def options (i : Invocation) : Options where
  pace := i.pace
  input := i.input
  seed := i.seed

def logLevel (i : Invocation) : Level :=
  match i.verbosity with
  | 0 => .info
  | 1 => .debug
  | _ => .trace

def gridIgnoredWarning (k : Kind) : Record where
  level := .warn
  component := .program
  message := "--grid ignored for a text language"
  fields := [("language", .plain k.name)]

def textProgram (i : Invocation) (source : Option String) : Logged (Option Program) := do
  Logged.emitIf i.grid.isSome (gridIgnoredWarning i.kind)
  return source.map Program.text

def gridProgram (i : Invocation) (source : Option String) : Logged (Option Program) :=
  match source, i.grid with
  | some text, some d => do
      let g ← Grid.load d text
      return some (.grid g)
  | some text, none => return some (.grid (Grid.fitText text))
  | none, some d => return some (.grid (Grid.empty d))
  | none, none => return none

def program (i : Invocation) (source : Option String) : Logged (Option Program) :=
  if i.kind.isGrid then i.gridProgram source else i.textProgram source

def startRecord (i : Invocation) : Record where
  level := .info
  component := .program
  message := "starting"
  fields := [("language", .plain i.kind.name), ("headless", .flag i.headless)]

def begin (i : Invocation) (source : Option String) : Logged (Option Program) := do
  let program ← i.program source
  Logged.emit i.startRecord
  return program

def logLines (i : Invocation) (log : Array Record) : List String :=
  (log.toList.filter fun r => i.logLevel.rank ≤ r.level.rank).map Record.filed

end Invocation

end StepLab
