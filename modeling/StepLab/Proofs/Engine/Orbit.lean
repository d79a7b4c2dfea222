import Mathlib.Data.List.Chain
import Mathlib.Logic.Function.Iterate
import StepLab.Engine.History

/-! # Histories are orbits

A history follows a state when its entries are that state and its successors, one
step apart, and no recorded step left the state as it was.  Starting over, going
forward and going back keep this, so the current state is always the first one
stepped as often as the cursor says. -/

set_option autoImplicit false

namespace StepLab.History

variable {L : Language}

/-- The three ways of going forward: over what is there, onto a new state, or
nowhere because the step stands still. -/
theorem next_cases (h : History L) :
    (∃ more : h.cursor + 1 < h.states.size,
      h.next = { h with cursor := h.cursor + 1, cursor_lt := more }) ∨
    (h.cursor + 1 = h.states.size ∧ L.step h.current ≠ h.current ∧
      h.next = h.extend (L.step h.current)) ∨
    (h.cursor + 1 = h.states.size ∧ L.step h.current = h.current ∧ h.next = h) := by
  have inside := h.cursor_lt
  by_cases more : h.cursor + 1 < h.states.size
  · exact Or.inl ⟨more, by simp [next, more]⟩
  · have last : h.cursor + 1 = h.states.size := by omega
    by_cases still : L.step h.current = h.current
    · exact Or.inr (Or.inr ⟨last, still, by simp [next, more, still]⟩)
    · exact Or.inr (Or.inl ⟨last, still, by simp [next, more, still]⟩)

/-- Entry `i` is the first state after `i` steps, and every recorded step moved. -/
structure Follows (h : History L) (first : L.State) : Prop where
  entry : ∀ i, i < h.states.size → h.states[i]? = some (L.step^[i] first)
  moved : ∀ i, i + 1 < h.states.size → L.step^[i] first ≠ L.step^[i + 1] first

theorem follows_start (first : L.State) : (start first).Follows first where
  entry i inside := by
    have only : i = 0 := by simpa [start] using inside
    subst only
    rfl
  moved i inside := by simp [start] at inside

namespace Follows

variable {h : History L} {first : L.State}

theorem current_eq (follows : h.Follows first) :
    h.current = L.step^[h.cursor] first := by
  have entry := follows.entry h.cursor h.cursor_lt
  rw [Array.getElem?_eq_getElem h.cursor_lt] at entry
  exact Option.some.inj entry

theorem of_states_eq {h' : History L} (follows : h.Follows first)
    (same : h'.states = h.states) : h'.Follows first where
  entry i inside := by
    rw [same] at inside ⊢
    exact follows.entry i inside
  moved i inside := by
    rw [same] at inside
    exact follows.moved i inside

theorem extend_step (follows : h.Follows first)
    (last : h.cursor + 1 = h.states.size)
    (moves : L.step h.current ≠ h.current) :
    (h.extend (L.step h.current)).Follows first := by
  have successor : L.step h.current = L.step^[h.states.size] first := by
    rw [follows.current_eq, ← last, Function.iterate_succ_apply']
  have states : (h.extend (L.step h.current)).states =
      h.states.push (L.step^[h.states.size] first) := by
    rw [← successor]
    rfl
  constructor
  · intro i inside
    rw [states, Array.size_push] at inside
    rw [states, Array.getElem?_push]
    by_cases new : i = h.states.size
    · rw [if_pos new, new]
    · rw [if_neg new]
      exact follows.entry i (by omega)
  · intro i inside
    rw [states, Array.size_push] at inside
    by_cases new : i + 1 = h.states.size
    · have here : i = h.cursor := by omega
      rw [new, ← successor, here, ← follows.current_eq]
      exact moves.symm
    · exact follows.moved i (by omega)

theorem next (follows : h.Follows first) : h.next.Follows first := by
  rcases next_cases h with ⟨more, next⟩ | ⟨last, moves, next⟩ | ⟨_, _, next⟩
  · rw [next]
    exact follows.of_states_eq rfl
  · rw [next]
    exact follows.extend_step last moves
  · rw [next]
    exact follows

theorem prev (follows : h.Follows first) : h.prev.Follows first :=
  follows.of_states_eq rfl

/-- The history is the list of the iterates, and nothing else. -/
theorem states_eq (follows : h.Follows first) :
    h.states.toList = (List.range h.size).map fun i => L.step^[i] first := by
  apply List.ext_getElem?
  intro i
  rw [Array.getElem?_toList, List.getElem?_map]
  by_cases inside : i < h.states.size
  · rw [follows.entry i inside]
    simp [size, inside]
  · rw [Array.getElem?_eq_none (Nat.le_of_not_lt inside)]
    simp [size, Nat.le_of_not_lt inside]

theorem isChain_ne (follows : h.Follows first) :
    h.states.toList.IsChain (· ≠ ·) := by
  rw [follows.states_eq, List.isChain_iff_getElem]
  intro i inside
  simp only [List.length_map, List.length_range] at inside
  simpa using follows.moved i inside

end Follows

end StepLab.History
