/-! # Log records and logged computations

A `Record` has a short form, and the form of a log file, which names the component and quotes
texts.  `Logged α` is a value with the records written on the way to it, in order. -/

set_option autoImplicit false

namespace StepLab

/-- How much detail a record carries, from the most to the least. -/
inductive Level where
  | trace
  | debug
  | info
  | warn
  deriving DecidableEq, Repr

def Level.rank : Level → Nat
  | .trace => 0
  | .debug => 1
  | .info => 2
  | .warn => 3

def Level.label : Level → String
  | .trace => "TRACE"
  | .debug => "DEBUG"
  | .info => "INFO"
  | .warn => "WARN"

inductive Component where
  | program
  | grid
  | history
  | ticker
  | engine
  | workbench
  deriving DecidableEq, Repr

def Component.path : Component → String
  | .program => "esostep"
  | .grid => "esostep::grid"
  | .history => "esostep::engine::cache"
  | .ticker => "esostep::engine::timer"
  | .engine => "esostep::engine::controller"
  | .workbench => "esostep::ui::app"

inductive FieldValue where
  | number (n : Nat)
  | flag (b : Bool)
  /-- A text that a log file quotes. -/
  | quoted (text : String)
  /-- A text that is written as it is. -/
  | plain (text : String)
  deriving DecidableEq, Repr

def FieldValue.short : FieldValue → String
  | .number n => toString n
  | .flag true => "true"
  | .flag false => "false"
  | .quoted text => text
  | .plain text => text

def FieldValue.filed : FieldValue → String
  | .quoted text => "\"" ++ text ++ "\""
  | value => value.short

structure Record where
  level : Level
  component : Component
  message : String
  fields : List (String × FieldValue) := []
  deriving DecidableEq, Repr

def Record.withFields (written : FieldValue → String) (message : String)
    (fields : List (String × FieldValue)) : String :=
  fields.foldl (fun line field => line ++ " " ++ field.1 ++ "=" ++ written field.2) message

def Record.short (r : Record) : String :=
  Record.withFields FieldValue.short (r.level.label ++ " " ++ r.message) r.fields

def Record.filed (r : Record) : String :=
  Record.withFields FieldValue.filed
    (r.level.label ++ " " ++ r.component.path ++ ": " ++ r.message) r.fields

structure Logged (α : Type) where
  value : α
  log : Array Record := #[]

namespace Logged

variable {α β : Type}

instance : Monad Logged where
  pure a := ⟨a, #[]⟩
  bind x f :=
    match x with
    | ⟨a, before⟩ => let y := f a; ⟨y.value, before ++ y.log⟩

@[simp] theorem value_pure (a : α) : (pure a : Logged α).value = a := rfl

@[simp] theorem log_pure (a : α) : (pure a : Logged α).log = #[] := rfl

@[simp] theorem value_bind (x : Logged α) (f : α → Logged β) :
    (x >>= f).value = (f x.value).value := rfl

@[simp] theorem log_bind (x : Logged α) (f : α → Logged β) :
    (x >>= f).log = x.log ++ (f x.value).log := rfl

def emit (r : Record) : Logged Unit := ⟨(), #[r]⟩

def emitIf (condition : Bool) (r : Record) : Logged Unit :=
  if condition then emit r else pure ()

@[simp] theorem log_emitIf (condition : Bool) (r : Record) :
    (emitIf condition r).log = if condition then #[r] else #[] := by
  cases condition <;> rfl

end Logged

end StepLab
