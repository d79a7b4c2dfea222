import StepLab.Screen.Line

/-! # Wrapping

Breaks a line into rows of a given width, one column per character, between words where that
is possible.  The spaces between two words stay in the row of the first one as far as they
fit, and are dropped from the start of the next row as far as they would have filled the row
before. -/

set_option autoImplicit false

namespace StepLab.Wrap

/-- A line being broken: the rows that are finished (last one first), the row
being filled, and the spaces and the word that are not placed yet. -/
structure State where
  finished : List Line := []
  row : Array Glyph := #[]
  spaces : Array Glyph := #[]
  word : Array Glyph := #[]
  inWord : Bool := false

def isSpace (g : Glyph) : Bool := g.char = ' '

def State.place (s : State) : State :=
  { s with row := s.row ++ s.spaces ++ s.word, spaces := #[], word := #[] }

/-- Places what is pending when a word has ended, or when it alone is too long
for a row. -/
def State.placeBefore (s : State) (width : Nat) (g : Glyph) : State :=
  if (s.inWord && isSpace g) || (s.row.isEmpty && width < s.word.size + s.spaces.size + 1)
  then s.place
  else s

def State.isFull (s : State) (width : Nat) : Bool :=
  width ≤ s.row.size + s.spaces.size + s.word.size

/-- Finishes the row; pending spaces fill the rest of it unseen. -/
def State.breakRow (s : State) (width : Nat) : State :=
  { s with
    finished := s.row.toList :: s.finished
    row := #[]
    spaces := s.spaces.drop (width - s.row.size) }

def State.append (s : State) (g : Glyph) : State :=
  if isSpace g then { s with spaces := s.spaces.push g, inWord := false }
  else { s with word := s.word.push g, inWord := true }

/-- Takes in the next glyph.  A space at the start of a new row is dropped. -/
def State.feed (width : Nat) (s : State) (g : Glyph) : State :=
  let placed := s.placeBefore width g
  if placed.isFull width then
    let broken := placed.breakRow width
    if isSpace g && broken.spaces.isEmpty then broken else broken.append g
  else placed.append g

def State.close (s : State) : List Line :=
  let finished :=
    if s.row.isEmpty && s.word.isEmpty && !s.spaces.isEmpty then [] :: s.finished
    else s.finished
  let last := (s.row ++ s.spaces ++ s.word).toList
  let all := if last.isEmpty then finished else last :: finished
  if all.isEmpty then [[]] else all.reverse

def rows (width : Nat) (line : Line) : List Line :=
  (line.foldl (State.feed width) {}).close

end StepLab.Wrap
