import StepLab.Text.Blank

/-! # Width of a text

It is assumed that every character takes one column, and that two letters written together
share one: an Arabic lam with an alef, a simple tone of the Lisu script with a final one.
ratatui, which draws on the terminal, measures the Unicode width instead, where some
characters take two columns and some none. -/

set_option autoImplicit false

namespace StepLab.Text

def lamRanges : List (Nat × Nat) :=
  [(0x644, 0x644), (0x6B5, 0x6B8), (0x76A, 0x76A), (0x8A6, 0x8A6), (0x8C7, 0x8C7)]

def alefRanges : List (Nat × Nat) :=
  [(0x622, 0x623), (0x625, 0x625), (0x627, 0x627), (0x671, 0x673), (0x675, 0x675),
   (0x773, 0x774), (0x870, 0x882)]

def firstToneRanges : List (Nat × Nat) := [(0xA4F8, 0xA4FB)]

def finalToneRanges : List (Nat × Nat) := [(0xA4FC, 0xA4FD)]

def joins (first second : Char) : Bool :=
  (inRanges lamRanges first.toNat && inRanges alefRanges second.toNat) ||
    (inRanges firstToneRanges first.toNat && inRanges finalToneRanges second.toNat)

/-- How many columns a text is wide: one for each character, less one for each
pair that is written together. -/
def width (text : List Char) : Nat :=
  text.length - (text.zip text.tail).countP fun pair => joins pair.1 pair.2

end StepLab.Text
