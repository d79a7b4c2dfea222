import StepLab.CommandLine.Directory
import StepLab.CommandLine.Parser
import StepLab.Engine.Basic

/-! # Running a command line

The log file is made first, then the program is read. -/

set_option autoImplicit false

namespace StepLab

structure Outcome where
  exit : Nat
  stdout : String := ""
  stderr : String := ""
  log : Option (String × List String) := none
  deriving DecidableEq, Repr

namespace Outcome

/-- Whether the file that a path names holds the log of the run in a directory.  The
null device keeps nothing. -/
def hasLogged (r : Outcome) (d : Directory) (path : String) : Bool :=
  match r.log.map fun log => d.locate log.1, d.locate path with
  | some (.ok written), .ok asked => written = asked && written ≠ Directory.nullDevice
  | _, _ => false

def linesAt (r : Outcome) (d : Directory) (path : String) : List String :=
  match r.log with
  | some (_, lines) => if r.hasLogged d path then lines else d.timedLines path
  | none => d.timedLines path

end Outcome

def versionText : String := "esostep 0.1.0\n"

def helpText : String :=
  "A replay-capable stepping interpreter for esoteric tape and grid languages\n" ++
  "\n" ++
  "Usage: esostep [OPTIONS] <LANGUAGE> [FILE]\n" ++
  "\n" ++
  "Arguments:\n" ++
  "  <LANGUAGE>  Language to start in (stun-step, suffolk, wii2d, back)\n" ++
  "  [FILE]      Program file to load\n" ++
  "\n" ++
  "Options:\n" ++
  "      --input <INPUT>          Input characters for Suffolk's `,` [default: ]\n" ++
  "      --grid <GRID>            Grid size for WII2D and Back, as ROWSxCOLS\n" ++
  "      --seed <SEED>            Seed for WII2D's `?` [default: 1592594221]\n" ++
  "      --interval <MS>          Milliseconds between steps while running\n" ++
  "      --min-interval <MS>      Lower bound in milliseconds for any step interval\n" ++
  "      --headless               Run without the TUI and print the result\n" ++
  "      --max-steps <MAX_STEPS>  Step limit for headless runs [default: 10000]\n" ++
  "      --log <FILE>             Write logs to this file\n" ++
  "  -v, --verbose...             More log detail (-v debug, -vv trace)\n" ++
  "  -h, --help                   Print help\n" ++
  "  -V, --version                Print version\n"

def Halt.outcome : Halt → Outcome
  | .version => { exit := 0, stdout := versionText }
  | .help => { exit := 0, stdout := helpText }
  | .misuse error =>
      { exit := 2
        stderr := "error: " ++ error.message ++
          "\n\nUsage: esostep [OPTIONS] <LANGUAGE> [FILE]\n\n" ++
          "For more information, try '--help'.\n" }

namespace Snapshot

/-- The output of a program, with a newline after an unfinished last line. -/
def closedOutput (s : Snapshot) : String :=
  match s.state.output.toList.getLast? with
  | none => ""
  | some c => if c = '\n' then s.state.output else s.state.output ++ "\n"

def tapeText (tape : Array Int64) : String :=
  "[" ++ ", ".intercalate (tape.toList.map fun cell => toString cell.toInt) ++ "]"

def resultText (s : Snapshot) : String :=
  (if s.displays.output then s.closedOutput else "") ++
    (if s.displays.register then "register: " ++ toString s.state.register.toInt ++ "\n"
     else "") ++
    (if s.displays.tape then
      "tape: " ++ tapeText s.state.tape ++ "\npointer: " ++ toString s.state.pointer ++ "\n"
     else "")

def endingText (s : Snapshot) : String :=
  (if s.terminated then "ended" else "stopped") ++ " after " ++ toString s.step ++ " step(s)\n"

end Snapshot

namespace Invocation

def runHeadless (i : Invocation) (program : Option Program) : Logged Snapshot := do
  let e ← Engine.create (i.kind.language i.options) (program.getD i.kind.emptyProgram) i.pace
  let e ← e.runToEnd i.maxSteps
  return e.snapshot

def headlessOutcome (i : Invocation) (source : Option String) : Outcome :=
  let run := i.begin source >>= i.runHeadless
  { exit := 0
    stdout := run.value.resultText
    stderr := run.value.endingText
    log := i.logFile.map fun path => (path, i.logLines run.log) }

def logFailure (cause : FileError) : Outcome :=
  { exit := 1, stderr := "Error: " ++ cause.report ++ "\n" }

def loadFailure (i : Invocation) (error : LoadError) : Outcome :=
  { exit := 1
    stderr := "Error: " ++ error.message ++ "\n"
    log := i.logFile.map fun path => (path, []) }

def openLog (i : Invocation) (d : Directory) : Except Outcome Directory :=
  match i.logFile with
  | none => .ok d
  | some path =>
      match d.create path with
      | .ok d => .ok d
      | .error cause => .error (logFailure cause)

def readSource (i : Invocation) (d : Directory) : Except Outcome (Option String) :=
  match i.file with
  | none => .ok none
  | some path =>
      match d.read path with
      | .ok text => .ok (some text)
      | .error cause => .error (i.loadFailure (.unreadable path cause))

end Invocation

inductive Start where
  | finished (outcome : Outcome)
  | interactive (invocation : Invocation) (source : Option String)

def Invocation.start (i : Invocation) (d : Directory) : Except Outcome Start := do
  let d ← i.openLog d
  let source ← i.readSource d
  return if i.headless then .finished (i.headlessOutcome source) else .interactive i source

def Start.ofArgs (d : Directory) (args : List String) : Start :=
  match Invocation.parse args with
  | .error halt => .finished halt.outcome
  | .ok i =>
      match i.start d with
      | .error outcome => .finished outcome
      | .ok start => start

end StepLab
