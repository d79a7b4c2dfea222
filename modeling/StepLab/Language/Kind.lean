import StepLab.Language.Back
import StepLab.Language.StunStep
import StepLab.Language.Suffolk
import StepLab.Language.Wii2d
import StepLab.LoadError
import StepLab.Options

/-! # The built-in languages

Names are read loosely: only ASCII letters and digits count, and their case does not. -/

set_option autoImplicit false

namespace StepLab

inductive Kind where
  | stunStep
  | suffolk
  | wii2d
  | back
  deriving DecidableEq, Repr

namespace Kind

/-- All kinds, in the order in which they are switched through. -/
def all : List Kind := [stunStep, suffolk, wii2d, back]

def language (o : Options) : Kind → Language
  | stunStep => StepLab.stunStep
  | suffolk => StepLab.suffolk o.input
  | wii2d => StepLab.wii2d o.seed
  | back => StepLab.back

def name : Kind → String
  | stunStep => "Stun Step"
  | suffolk => "Suffolk"
  | wii2d => "WII2D"
  | back => "Back"

def isGrid : Kind → Bool
  | stunStep => false
  | suffolk => false
  | wii2d => true
  | back => true

def next : Kind → Kind
  | stunStep => suffolk
  | suffolk => wii2d
  | wii2d => back
  | back => stunStep

def isNameChar (c : Char) : Bool :=
  ('0' ≤ c && c ≤ '9') || ('a' ≤ c && c ≤ 'z') || ('A' ≤ c && c ≤ 'Z')

def nameKey (name : String) : List Char :=
  (name.toList.filter isNameChar).map Char.toLower

def ofName (name : String) : Except LoadError Kind :=
  match all.find? fun k => nameKey k.name = nameKey name with
  | some k => .ok k
  | none => .error (.unknownLanguage name (all.map Kind.name))

def emptyProgram (k : Kind) : Program :=
  if k.isGrid then .grid (Grid.empty ⟨1, 1⟩) else .text ""

end Kind

end StepLab
