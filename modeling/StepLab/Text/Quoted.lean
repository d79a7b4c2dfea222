import StepLab.Text.Blank
import StepLab.Text.Extender
import StepLab.Text.Glyphless

/-! # Characters by code point and in quotes

`quoteChar` writes a character so that it can be seen: a short escape, or the code point in
hexadecimal for what a screen would not show in a place of its own. -/

set_option autoImplicit false

namespace StepLab.Text

/-- Whether a character is a control character (general category Cc). -/
def isControl (c : Char) : Bool :=
  c.toNat ≤ 0x1F || (0x7F ≤ c.toNat && c.toNat ≤ 0x9F)

def replacementChar : Char := '\uFFFD'

/-- The character with a code point; words outside the range of scalar values
give the replacement character. -/
def charOfCode (code : Int64) : Char :=
  let n := code.toInt
  if 0 ≤ n && n.toNat.isValidChar then Char.ofNat n.toNat else replacementChar

def isShown (c : Char) : Bool :=
  !inRanges glyphlessRanges c.toNat && !inRanges extenderRanges c.toNat

def escapeCode (c : Char) : String :=
  "\\u\x7b" ++ String.ofList (Nat.toDigits 16 c.toNat) ++ "\x7d"

def escapeChar (c : Char) : String :=
  if c = Char.ofNat 0 then "\\0"
  else if c = '\t' then "\\t"
  else if c = '\r' then "\\r"
  else if c = '\n' then "\\n"
  else if c = '\'' then "\\'"
  else if c = '\\' then "\\\\"
  else if isShown c then c.toString
  else escapeCode c

def quoteChar (c : Char) : String :=
  "'" ++ escapeChar c ++ "'"

end StepLab.Text
