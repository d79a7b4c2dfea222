import StepLab.Grid.Basic
import StepLab.Log
import StepLab.Text.Lines

/-! # Grids and texts

A text is written onto a blank grid character by character, line by line.  What lies outside
the grid is left out. -/

set_option autoImplicit false

namespace StepLab.Grid

/-- A grid that is written to, and whether a character was left out so far. -/
structure Sheet where
  grid : Grid
  truncated : Bool := false

/-- Writes the rest of a line into row `r`, from column `c` to the last column at most. -/
def writeFrom (r : Nat) : Nat → List Char → Sheet → Sheet
  | _, [], sheet => sheet
  | c, ch :: rest, sheet =>
      if sheet.grid.dims.cols ≤ c then { sheet with truncated := true }
      else
        writeFrom r (c + 1) rest
          { sheet with grid := sheet.grid.set (r * sheet.grid.dims.cols + c) ch }

/-- Writes a line with its number.  An empty line below the last row leaves nothing out. -/
def writeLine (sheet : Sheet) (line : List Char × Nat) : Sheet :=
  if sheet.grid.dims.rows ≤ line.2 then
    { sheet with truncated := sheet.truncated || !line.1.isEmpty }
  else writeFrom line.2 0 line.1 sheet

def writeLines (d : Dims) (lines : List (List Char)) : Sheet :=
  lines.zipIdx.foldl writeLine { grid := empty d }

def ofText (d : Dims) (text : String) : Grid :=
  (writeLines d (Text.lines text.toList)).grid

def overflows (d : Dims) (text : String) : Bool :=
  (writeLines d (Text.lines text.toList)).truncated

def overflowWarning (d : Dims) : Record where
  level := .warn
  component := .grid
  message := "program text does not fit the grid; extra cells dropped"
  fields := [("rows", .number d.rows), ("cols", .number d.cols)]

def load (d : Dims) (text : String) : Logged Grid := do
  Logged.emitIf (overflows d text) (overflowWarning d)
  return ofText d text

@[simp] theorem value_load (d : Dims) (text : String) :
    (load d text).value = ofText d text := rfl

/-- The dimensions of a text: its lines by its longest line, at least one cell. -/
def textDims (text : String) : Dims where
  rows := max 1 (Text.lines text.toList).length
  cols := (Text.lines text.toList).foldl (fun widest line => max widest line.length) 1

def fitText (text : String) : Grid :=
  ofText (textDims text) text

/-- The rows without the white space at their ends, one per line. -/
def toText (g : Grid) : String :=
  String.ofList (Text.unlines (g.rows.map Text.trimEnd))

def display (g : Grid) : String :=
  String.ofList (g.rows.flatMap fun row => row ++ ['\n'])

end StepLab.Grid
