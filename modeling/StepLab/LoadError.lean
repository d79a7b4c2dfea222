/-! # Errors of loading a program -/

set_option autoImplicit false

namespace StepLab

inductive FileError where
  | missing
  | denied
  | notADirectory
  | isADirectory
  | nameTooLong
  | notText
  deriving DecidableEq, Repr

/-- The system's number for a failure to open a file. -/
def FileError.code? : FileError → Option Nat
  | .missing => some 2
  | .denied => some 13
  | .notADirectory => some 20
  | .isADirectory => some 21
  | .nameTooLong => some 36
  | .notText => none

def FileError.description : FileError → String
  | .missing => "No such file or directory"
  | .denied => "Permission denied"
  | .notADirectory => "Not a directory"
  | .isADirectory => "Is a directory"
  | .nameTooLong => "File name too long"
  | .notText => "stream did not contain valid UTF-8"

def FileError.className : FileError → String
  | .missing => "NotFound"
  | .denied => "PermissionDenied"
  | .notADirectory => "NotADirectory"
  | .isADirectory => "IsADirectory"
  | .nameTooLong => "InvalidFilename"
  | .notText => "InvalidData"

def FileError.message (e : FileError) : String :=
  match e.code? with
  | some code => e.description ++ " (os error " ++ toString code ++ ")"
  | none => e.description

def FileError.report (e : FileError) : String :=
  match e.code? with
  | some code =>
      "Os \x7b code: " ++ toString code ++ ", kind: " ++ e.className ++
        ", message: \"" ++ e.description ++ "\" \x7d"
  | none => "Error \x7b kind: " ++ e.className ++ ", message: \"" ++ e.description ++ "\" \x7d"

inductive LoadError where
  | unknownLanguage (name : String) (expected : List String)
  | invalidGridSize (text : String)
  | emptyGrid (rows cols : Nat)
  | unreadable (path : String) (cause : FileError)
  deriving DecidableEq, Repr

def LoadError.message : LoadError → String
  | .unknownLanguage name expected =>
      "unknown language '" ++ name ++ "' (expected one of: " ++
        ", ".intercalate expected ++ ")"
  | .invalidGridSize text =>
      "invalid grid size '" ++ text ++ "', expected ROWSxCOLS (e.g. 12x40)"
  | .emptyGrid rows cols =>
      "grid must have at least one row and one column, got " ++
        toString rows ++ "x" ++ toString cols
  | .unreadable path cause =>
      "failed to read program '" ++ path ++ "': " ++ cause.message

end StepLab
