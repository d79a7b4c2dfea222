/-! # Paths

The parts `.` and `..` are kept: what they mean depends on what stands before them. -/

set_option autoImplicit false

namespace StepLab

structure Path where
  rooted : Bool
  /-- What stands between the slashes, without the empty parts. -/
  parts : List String
  slashed : Bool
  deriving DecidableEq, Repr

namespace Path

def maxBytes : Nat := 4095

def maxPartBytes : Nat := 255

def itself : String := "."

def parent : String := ".."

def ofText (text : String) : Path where
  rooted := text.toList.head? = some '/'
  parts := (text.splitOn "/").filter (· ≠ "")
  slashed := text.toList.getLast? = some '/'

def isOverlong (text : String) : Bool := maxBytes < text.utf8ByteSize

def isOverlongPart (part : String) : Bool := maxPartBytes < part.utf8ByteSize

/-- Whether a part stands for a folder by what it is, without a look-up. -/
def isDots (part : String) : Bool := part = itself || part = parent

end Path

end StepLab
