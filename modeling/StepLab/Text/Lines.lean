/-! # Lines of a text

`pieces` cuts a text at every newline, so nothing but the newlines is lost; `lines` reads it
as a file of lines. -/

set_option autoImplicit false

namespace StepLab.Text

def consPiece (c : Char) : List (List Char) → List (List Char)
  | [] => [[c]]
  | piece :: rest =>
      if c = '\n' then [] :: piece :: rest else (c :: piece) :: rest

def pieces (text : List Char) : List (List Char) :=
  text.foldr consPiece [[]]

@[simp] theorem pieces_nil : pieces [] = [[]] := rfl

@[simp] theorem pieces_cons (c : Char) (text : List Char) :
    pieces (c :: text) = consPiece c (pieces text) := rfl

theorem consPiece_ne_nil (c : Char) (ps : List (List Char)) :
    consPiece c ps ≠ [] := by
  cases ps with
  | nil => simp [consPiece]
  | cons piece rest =>
      by_cases newline : c = '\n' <;> simp [consPiece, newline]

theorem pieces_ne_nil (text : List Char) : pieces text ≠ [] := by
  cases text with
  | nil => simp
  | cons c rest => exact consPiece_ne_nil c (pieces rest)

def dropCarriageReturn (line : List Char) : List Char :=
  if line.getLast? = some '\r' then line.dropLast else line

/-- The lines of a text.  Only a newline ends a line; the unfinished last line
keeps its carriage return and counts unless it is empty. -/
def lines (text : List Char) : List (List Char) :=
  let unfinished := (pieces text).getLastD []
  (pieces text).dropLast.map dropCarriageReturn ++
    (if unfinished.isEmpty then [] else [unfinished])

@[simp] theorem lines_nil : lines [] = [] := rfl

def unbroken (text : List Char) : List Char := (lines text).flatten

def unlines (ls : List (List Char)) : List Char :=
  ['\n'].intercalate ls

end StepLab.Text
