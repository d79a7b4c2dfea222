/-! # Register arithmetic that saturates -/

set_option autoImplicit false

namespace StepLab.Word

/-- The word nearest to an integer. -/
def saturate (n : Int) : Int64 :=
  if n ≤ Int64.minValue.toInt then Int64.minValue
  else if Int64.maxValue.toInt ≤ n then Int64.maxValue
  else Int64.ofInt n

def add (a b : Int64) : Int64 := saturate (a.toInt + b.toInt)

def sub (a b : Int64) : Int64 := saturate (a.toInt - b.toInt)

def mul (a b : Int64) : Int64 := saturate (a.toInt * b.toInt)

def half (a : Int64) : Int64 := saturate (a.toInt / 2)

end StepLab.Word
