/-! # Areas of a screen

Columns and rows past `limit` count as cells of an area, and have no place on a screen. -/

set_option autoImplicit false

namespace StepLab

structure Area where
  x : Nat := 0
  y : Nat := 0
  width : Nat := 0
  height : Nat := 0
  deriving DecidableEq, Repr

namespace Area

/-- The largest coordinate, and the largest number of cells of an area. -/
def limit : Nat := 65535

/-- The sides of a rectangle with at most `limit` cells: the given ones, or, where
they are too long, shorter ones in the same proportion, cut to whole cells. -/
def boundedSides (width height : Nat) : Nat × Nat :=
  if width * height ≤ limit then (width, height)
  else
    let ratio := Float.ofNat width / Float.ofNat height
    let high := (Float.ofNat limit / ratio).sqrt
    ((high * ratio).toUInt16.toNat, high.toUInt16.toNat)

def bounded (x y width height : Nat) : Area where
  x := x
  y := y
  width := (boundedSides width height).1
  height := (boundedSides width height).2

def right (a : Area) : Nat := min (a.x + a.width) limit

def bottom (a : Area) : Nat := min (a.y + a.height) limit

def contains (a : Area) (x y : Nat) : Bool :=
  a.x ≤ x && x < a.right && a.y ≤ y && y < a.bottom

theorem contains_iff (a : Area) (x y : Nat) :
    a.contains x y = true ↔ (a.x ≤ x ∧ x < a.right) ∧ a.y ≤ y ∧ y < a.bottom := by
  simp [contains, and_assoc]

def clip (a screen : Area) : Area where
  x := max a.x screen.x
  y := max a.y screen.y
  width := min a.right screen.right - max a.x screen.x
  height := min a.bottom screen.bottom - max a.y screen.y

/-- The area without a cell on each side; its corner is never outside the area. -/
def inner (a : Area) : Area where
  x := min (a.x + 1) a.right
  y := min (a.y + 1) a.bottom
  width := a.width - 2
  height := a.height - 2

def pad (a : Area) (left right : Nat) : Area where
  x := min (a.x + left) limit
  y := a.y
  width := a.width - (left + right)
  height := a.height

/-- A percentage of a length, rounded to the nearest number and up at a half. -/
def percentOf (percent length : Nat) : Nat := (2 * length * percent + 100) / 200

def columns (a : Area) : Nat := a.right - a.x

def rows (a : Area) : Nat := a.bottom - a.y

def splitColumns (a : Area) (percent : Nat) : Area × Area :=
  let left := percentOf percent a.columns
  ({ a with width := left }, { a with x := a.x + left, width := a.columns - left })

def splitRows (a : Area) (percent : Nat) : Area × Area :=
  let upper := percentOf percent a.rows
  ({ a with height := upper }, { a with y := a.y + upper, height := a.rows - upper })

def splitLastRow (a : Area) : Area × Area :=
  ({ a with height := a.rows - 1 },
   { a with y := a.y + (a.rows - 1), height := min 1 a.rows })

end Area

end StepLab
