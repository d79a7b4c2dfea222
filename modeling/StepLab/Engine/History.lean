import StepLab.Language.Basic
import StepLab.Log

/-! # Step history

Entry `i` is the state after `i` steps; the cursor is on the current one.  A step that leaves
the state as it is adds nothing. -/

set_option autoImplicit false

namespace StepLab

structure History (L : Language) where
  states : Array L.State
  cursor : Nat
  cursor_lt : cursor < states.size

namespace History

variable {L : Language}

def start (s : L.State) : History L where
  states := #[s]
  cursor := 0
  cursor_lt := by simp

def current (h : History L) : L.State :=
  getElem h.states h.cursor h.cursor_lt

def get? (h : History L) (i : Nat) : Option L.State := h.states[i]?

def size (h : History L) : Nat := h.states.size

def ahead (h : History L) : Nat := h.states.size - h.cursor - 1

def canGoBack (h : History L) : Bool := 0 < h.cursor

def extend (h : History L) (s : L.State) : History L :=
  match h with
  | ⟨states, _, _⟩ =>
      let cursor := states.size
      { states := states.push s, cursor, cursor_lt := by simp [cursor] }

/-- Goes one step forward; a state is computed only where none follows. -/
def next (h : History L) : History L :=
  if more : h.cursor + 1 < h.states.size then
    { h with cursor := h.cursor + 1, cursor_lt := more }
  else
    let s := L.step h.current
    if s = h.current then h else h.extend s

def prev (h : History L) : History L where
  states := h.states
  cursor := h.cursor - 1
  cursor_lt := by have := h.cursor_lt; omega

def clearedRecord (h : History L) : Record where
  level := .trace
  component := .history
  message := "history cleared"
  fields := [("discarded", .number h.size)]

def restart (h : History L) (s : L.State) : Logged (History L) := do
  Logged.emit h.clearedRecord
  return start s

@[simp] theorem value_restart (h : History L) (s : L.State) :
    (h.restart s).value = start s := rfl

end History

end StepLab
