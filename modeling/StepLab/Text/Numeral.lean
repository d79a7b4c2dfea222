/-! # Numerals of machine words

At most one plus sign and at least one ASCII digit, zeros in front allowed. -/

set_option autoImplicit false

namespace StepLab.Text

def isDigit (c : Char) : Bool :=
  '0' ≤ c && c ≤ '9'

def digitValue (c : Char) : Nat :=
  c.toNat - '0'.toNat

/-- The value of a string of digits, most significant first. -/
def digitsValue (digits : List Char) : Nat :=
  digits.foldl (fun value c => 10 * value + digitValue c) 0

def wordMax : Nat := 18446744073709551615

def dropPlus : List Char → List Char
  | '+' :: rest => rest
  | text => text

def readWord? (text : List Char) : Option Nat :=
  let digits := dropPlus text
  if digits.isEmpty || !digits.all isDigit then none
  else if digitsValue digits ≤ wordMax then some (digitsValue digits)
  else none

end StepLab.Text
