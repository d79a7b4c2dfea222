import StepLab.CommandLine.Run
import StepLab.Workbench.Event

/-! # The program

Without a screen the outcome is printed.  Otherwise the workbench is drawn on the standard
output, and every line of the standard input is a row of keys: characters one by one, a name
such as `<Tab>` or `<Esc>` for any other key, and Enter for an empty line. -/

set_option autoImplicit false

namespace StepLab.Console

def fileError : IO.Error → FileError
  | .noFileOrDirectory _ _ _ => .missing
  | .inappropriateType _ code _ => if code = 21 then .isADirectory else .notADirectory
  | .invalidArgument _ code _ => if code = 36 then .nameTooLong else .denied
  | _ => .denied

def attempt {α : Type} (call : IO α) : IO (Except FileError α) := do
  try
    let a ← call
    return .ok a
  catch e => return .error (fileError e)

def readText (path : String) : IO (Except FileError String) := do
  match ← attempt (IO.FS.readBinFile path) with
  | .error e => return .error e
  | .ok bytes =>
      match String.fromUTF8? bytes with
      | some text => return .ok text
      | none => return .error .notText

def appendLog (path : String) (lines : List String) : IO Unit := do
  let handle ← IO.FS.Handle.mk path .append
  let now ← IO.monoMsNow
  for line in lines do
    handle.putStrLn (toString now ++ " " ++ line)

def finish (outcome : Outcome) : IO UInt32 := do
  IO.print outcome.stdout
  IO.eprint outcome.stderr
  if let some (path, lines) := outcome.log then appendLog path lines
  return UInt32.ofNat outcome.exit

def namedKeys : List (String × KeyCode) :=
  [("<Up>", .up), ("<Down>", .down), ("<Left>", .left), ("<Right>", .right),
   ("<Esc>", .escape), ("<Backspace>", .backspace), ("<Delete>", .delete), ("<Tab>", .tab)]

def keysOfLine (line : String) : List Key :=
  match namedKeys.lookup line with
  | some code => [{ code }]
  | none =>
      if line.isEmpty then [{ code := .enter }]
      else line.toList.map fun c => { code := .char c }

def screenSize : Nat × Nat := (80, 24)

def keepLog {α : Type} (i : Invocation) (x : Logged α) : IO α := do
  if let some path := i.logFile then appendLog path (i.logLines x.log)
  return x.value

def pressAll {o : Options} (w : Workbench o) (now : Nat) (keys : List Key) :
    Logged (Workbench o) :=
  keys.foldlM (fun w key => w.handle now (.key key)) w

/-- Draws, ticks and reads keys until the workbench is left or the input ends. -/
partial def converse {o : Options} (i : Invocation) (w : Workbench o) : IO Unit := do
  let (width, height) := screenSize
  for row in (w.picture width height).rows width height do
    IO.println (String.ofList (Cell.glyphs row))
  let w ← keepLog i (w.handle (← IO.monoMsNow) (.tick width height))
  unless w.shouldQuit do
    let line ← (← IO.getStdin).getLine
    unless line.isEmpty do
      let keys := keysOfLine (String.ofList (line.toList.filter (· ≠ '\n')))
      let w ← keepLog i (pressAll w (← IO.monoMsNow) keys)
      converse i w

def run (i : Invocation) : IO UInt32 := do
  if let some path := i.logFile then
    if let .error cause ← attempt (IO.FS.writeFile path "") then
      return ← finish (Invocation.logFailure cause)
  let mut source := none
  if let some path := i.file then
    match ← readText path with
    | .ok text => source := some text
    | .error cause => return ← finish (i.loadFailure (.unreadable path cause))
  if i.headless then finish (i.headlessOutcome source)
  else
    let program ← keepLog i (i.begin source)
    converse i (← keepLog i (Workbench.create i.options i.kind program))
    return 0

end StepLab.Console

def main (args : List String) : IO UInt32 :=
  match StepLab.Invocation.parse args with
  | .error halt => StepLab.Console.finish halt.outcome
  | .ok invocation => StepLab.Console.run invocation
