/-! # Colours and styles

What a style does not set stays as it is, or is the default of the terminal. -/

set_option autoImplicit false

namespace StepLab

inductive Color where
  | rgb (red green blue : Nat)
  | black
  deriving DecidableEq, Repr

def Color.hexByte (n : Nat) : String :=
  String.ofList [Nat.digitChar (n / 16 % 16), Nat.digitChar (n % 16)]

def Color.text : Color → String
  | .rgb red green blue => "#" ++ hexByte red ++ hexByte green ++ hexByte blue
  | .black => "Black"

structure Style where
  fg : Option Color := none
  bg : Option Color := none
  bold : Bool := false
  deriving DecidableEq, Repr

namespace Style

def onto (patch base : Style) : Style where
  fg := patch.fg.or base.fg
  bg := patch.bg.or base.bg
  bold := patch.bold || base.bold

def colorText : Option Color → String
  | some color => color.text
  | none => "-"

def text (s : Style) : String :=
  colorText s.fg ++ " on " ++ colorText s.bg ++ (if s.bold then " bold" else "")

def ofFg (color : Color) : Style := { fg := some color }

def ofBg (color : Color) : Style := { bg := some color }

def badge (color : Color) : Style := { fg := some .black, bg := some color, bold := true }

end Style

end StepLab
