import StepLab.Engine.Snapshot
import StepLab.Pane.Palette
import StepLab.Screen.Line
import StepLab.Text.Quoted

/-! # The status bar -/

set_option autoImplicit false

namespace StepLab.StatusBar

structure Content where
  message : String
  /-- A question waiting for an answer; it takes the place of the message. -/
  question : Option String := none
  inserting : Bool := false

def stepText (s : Snapshot) : String :=
  " Step " ++ toString s.step ++
    (if 0 < s.ahead then " (+" ++ toString s.ahead ++ ")" else "") ++
    (match s.currentOp with
      | some c => " · " ++ Text.quoteChar c
      | none => "") ++ " "

def stepColor (s : Snapshot) (content : Content) : Color :=
  if content.question.isSome then Palette.attention
  else if s.terminated then Palette.ended
  else Palette.active

def barStyle (color : Color) : Style := { fg := some color, bg := some Palette.bar }

def messageLine (content : Content) : Line :=
  match content.question with
  | some question => Line.ofText (barStyle Palette.attention) (" " ++ question ++ " (y/n) ")
  | none => Line.ofText (barStyle Palette.text) (" " ++ content.message ++ " ")

def leftLine (s : Snapshot) (content : Content) : Line :=
  Line.ofText (.badge (stepColor s content)) (stepText s) ++
    Line.ofText (barStyle Palette.muted) " | " ++ messageLine content

def bindings (s : Snapshot) (inserting : Bool) : List (String × String) :=
  if inserting then [("Esc", "done")]
  else
    [("←/→", "step"), ("⎵", "run")] ++
      (if s.fastForward then [("f", "ff")] else []) ++
      [("r", "reset"), (if s.state.grid.isSome then "↵" else "i", "edit"), ("Tab", "lang"),
       ("q", "quit")]

def bindingLine (binding : String × String) : Line :=
  Line.ofText { fg := some .black, bg := some Palette.muted } (" " ++ binding.1 ++ " ") ++
    Line.ofText (barStyle Palette.text) (" " ++ binding.2 ++ " ")

def separator : Line := Line.ofText (barStyle Palette.muted) "│"

def bindingsLine (s : Snapshot) (inserting : Bool) : Line :=
  (separator ++ Line.ofText (barStyle Palette.text) " ").intercalate
    ((bindings s inserting).map bindingLine)

def runColor (s : Snapshot) : Color :=
  if s.terminated then Palette.ended else if s.paused then Palette.calm else Palette.attention

def runText (s : Snapshot) : String :=
  match s.interval with
  | some interval =>
      if s.terminated then " " ++ s.runLabel ++ " "
      else " ▶ " ++ s.runLabel ++ " " ++ toString interval ++ "ms "
  | none => " " ++ s.runLabel ++ " "

def rightLine (s : Snapshot) (content : Content) : Line :=
  bindingsLine s content.inserting ++ separator ++ Line.ofText (.badge (runColor s)) (runText s)

def draw (area : Area) (s : Snapshot) (content : Content) : Picture :=
  let (left, right) := area.splitColumns 50
  .stack [.fill left (.ofBg Palette.bar), .lines left .left [leftLine s content],
    .fill right (.ofBg Palette.bar), .lines right .right [rightLine s content]]

end StepLab.StatusBar
