import StepLab.CommandLine.Invocation

/-! # Reading a command line

Arguments are read from the left.  A value stands after an equals sign or is the next
argument, which must not look like an option.  Asking for the version or for help ends the
reading. -/

set_option autoImplicit false

namespace StepLab

inductive Setting where
  | input
  | grid
  | seed
  | interval
  | minInterval
  | maxSteps
  | log
  deriving DecidableEq, Repr

inductive Flag where
  | headless
  | verbose
  | version
  | help
  deriving DecidableEq, Repr

def Setting.name : Setting → String
  | input => "--input"
  | grid => "--grid"
  | seed => "--seed"
  | interval => "--interval"
  | minInterval => "--min-interval"
  | maxSteps => "--max-steps"
  | log => "--log"

def Setting.all : List Setting :=
  [input, grid, seed, interval, minInterval, maxSteps, log]

def Flag.name : Flag → String
  | headless => "--headless"
  | verbose => "--verbose"
  | version => "--version"
  | help => "--help"

def Flag.all : List Flag := [headless, verbose, version, help]

def Flag.ofLetter? : Char → Option Flag
  | 'v' => some verbose
  | 'V' => some version
  | 'h' => some help
  | _ => none

inductive UsageError where
  | unknownOption (name : String)
  | missingValue (setting : Setting)
  | invalidValue (name value : String)
  | repeated (name : String)
  | valueNotTaken (name : String)
  | extraArgument (value : String)
  | missingLanguage
  deriving DecidableEq, Repr

def UsageError.message : UsageError → String
  | unknownOption name => "unexpected argument '" ++ name ++ "' found"
  | missingValue setting => "a value is required for '" ++ setting.name ++ "' but none was supplied"
  | invalidValue name value => "invalid value '" ++ value ++ "' for '" ++ name ++ "'"
  | repeated name => "the argument '" ++ name ++ "' cannot be used multiple times"
  | valueNotTaken name => "unexpected value for '" ++ name ++ "' found; no more were expected"
  | extraArgument value => "unexpected argument '" ++ value ++ "' found"
  | missingLanguage => "the following required arguments were not provided: <LANGUAGE>"

/-- How reading ends before the last argument. -/
inductive Halt where
  | version
  | help
  | misuse (error : UsageError)
  deriving DecidableEq, Repr

structure Draft where
  kind : Option Kind := none
  file : Option String := none
  input : Option String := none
  grid : Option Dims := none
  seed : Option Nat := none
  interval : Option Nat := none
  minInterval : Option Nat := none
  maxSteps : Option Nat := none
  logFile : Option String := none
  headless : Bool := false
  verbosity : Nat := 0

namespace Draft

def refuse {α : Type} (error : UsageError) : Except Halt α := .error (.misuse error)

def demand {α : Type} (name value : String) : Option α → Except Halt α
  | some a => .ok a
  | none => refuse (.invalidValue name value)

def readPath? (value : String) : Option String :=
  if value.isEmpty then none else some value

def once {α : Type} (setting : Setting) : Option α → Except Halt Unit
  | some _ => refuse (.repeated setting.name)
  | none => .ok ()

def assign (d : Draft) (setting : Setting) (value : String) : Except Halt Draft := do
  let number := demand setting.name value (Text.readWord? value.toList)
  match setting with
  | .input =>
      once setting d.input
      return { d with input := some value }
  | .grid =>
      once setting d.grid
      let dims ← demand setting.name value (Dims.parse value).toOption
      return { d with grid := some dims }
  | .seed =>
      once setting d.seed
      return { d with seed := some (← number) }
  | .interval =>
      once setting d.interval
      return { d with interval := some (← number) }
  | .minInterval =>
      once setting d.minInterval
      return { d with minInterval := some (← number) }
  | .maxSteps =>
      once setting d.maxSteps
      return { d with maxSteps := some (← number) }
  | .log =>
      once setting d.logFile
      let path ← demand setting.name value (readPath? value)
      return { d with logFile := some path }

def raise (d : Draft) : Flag → Except Halt Draft
  | .headless =>
      if d.headless then refuse (.repeated Flag.headless.name)
      else .ok { d with headless := true }
  | .verbose => .ok { d with verbosity := d.verbosity + 1 }
  | .version => .error .version
  | .help => .error .help

def raiseLetters (d : Draft) : List Char → Except Halt Draft
  | [] => .ok d
  | c :: rest =>
      match Flag.ofLetter? c with
      | none => refuse (.unknownOption (String.ofList ['-', c]))
      | some flag => do
          let d ← d.raise flag
          d.raiseLetters rest

/-- Takes in an argument that is no option: first the language, then the file. -/
def place (d : Draft) (value : String) : Except Halt Draft :=
  match d.kind, d.file with
  | none, _ => do
      let kind ← demand "<LANGUAGE>" value (Kind.ofName value).toOption
      return { d with kind := some kind }
  | some _, none => do
      let path ← demand "[FILE]" value (readPath? value)
      return { d with file := some path }
  | some _, some _ => refuse (.extraArgument value)

/-- Whether an argument looks like an option: a hyphen and something after it. -/
def looksLikeOption (arg : String) : Bool :=
  match arg.toList with
  | '-' :: _ :: _ => true
  | _ => false

def isLong (arg : String) : Bool :=
  match arg.toList with
  | '-' :: '-' :: _ => true
  | _ => false

def splitValue (arg : String) : String × Option String :=
  let cs := arg.toList
  let name := String.ofList (cs.takeWhile (· ≠ '='))
  match cs.dropWhile (· ≠ '=') with
  | [] => (name, none)
  | _ :: value => (name, some (String.ofList value))

def setting? (name : String) : Option Setting := Setting.all.find? (·.name = name)

def flag? (name : String) : Option Flag := Flag.all.find? (·.name = name)

def raiseNamed (d : Draft) (name : String) (value : Option String) : Except Halt Draft :=
  match flag? name, value with
  | none, _ => refuse (.unknownOption name)
  | some flag, some _ => refuse (.valueNotTaken flag.name)
  | some flag, none => d.raise flag

def read (d : Draft) : List String → Except Halt Draft
  | [] => .ok d
  | arg :: rest =>
      if arg = "--" then rest.foldlM place d
      else if isLong arg then
        let (name, attached) := splitValue arg
        match setting? name, attached, rest with
        | some setting, some value, rest => do
            let d ← d.assign setting value
            d.read rest
        | some setting, none, value :: rest =>
            if looksLikeOption value then refuse (.missingValue setting)
            else do
              let d ← d.assign setting value
              d.read rest
        | some setting, none, [] => refuse (.missingValue setting)
        | none, attached, rest => do
            let d ← d.raiseNamed name attached
            d.read rest
      else if looksLikeOption arg then do
        let d ← d.raiseLetters (arg.toList.drop 1)
        d.read rest
      else do
        let d ← d.place arg
        d.read rest

def finish (d : Draft) : Except Halt Invocation :=
  match d.kind with
  | none => refuse .missingLanguage
  | some kind =>
      let base : Invocation := { kind }
      .ok {
        kind
        file := d.file
        input := d.input.getD base.input
        grid := d.grid
        seed := (d.seed.map UInt64.ofNat).getD base.seed
        interval := d.interval
        minInterval := d.minInterval
        headless := d.headless
        maxSteps := d.maxSteps.getD base.maxSteps
        logFile := d.logFile
        verbosity := d.verbosity }

end Draft

def Invocation.parse (args : List String) : Except Halt Invocation := do
  let d ← Draft.read {} args
  d.finish

end StepLab
