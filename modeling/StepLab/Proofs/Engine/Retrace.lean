import Mathlib.Data.List.Induction
import Mathlib.Data.Nat.Find
import StepLab.Proofs.Engine.Stopping

/-! # Going back and forth

The cursor of a history is a counter.  Going forward raises it, but never above the
first step at which the program stands still; going back lowers it, but never below
zero.  The history is as long as the counter has been high, so what lies ahead is what
was gone back over, and going forward again restores it.

Going forward replays, computes or does nothing, chosen by the length of the history and
by comparing two states.  Every recorded step moved, so no entry comes after a standstill,
and the history ends on the first one or before it. -/

set_option autoImplicit false

namespace StepLab

/-- The step counts after which a program stands still. -/
def Language.Standstills (L : Language) (first : L.State) : Set Nat :=
  {k | L.step (L.step^[k] first) = L.step^[k] first}

inductive Move where
  | next
  | prev
  deriving DecidableEq

/-- A counter after a move: one up, but not above a ceiling if there is one, or one
down, but not below zero. -/
def Move.count (ceiling : Option Nat) (n : Nat) : Move → Nat
  | next => ceiling.elim (n + 1) fun top => min (n + 1) top
  | prev => n - 1

namespace History

variable {L : Language}

def move (h : History L) : Move → History L
  | .next => h.next
  | .prev => h.prev

def walk (h : History L) (moves : List Move) : History L :=
  moves.foldl move h

theorem walk_concat (h : History L) (moves : List Move) (m : Move) :
    h.walk (moves ++ [m]) = (h.walk moves).move m := by
  simp [walk]

/-! ## The cursor -/

theorem Follows.move {h : History L} {first : L.State} (follows : h.Follows first)
    (m : Move) : (h.move m).Follows first := by
  cases m with
  | next => exact follows.next
  | prev => exact follows.prev

/-- A standstill is not inside a history: no entry comes after it. -/
theorem Follows.size_le_of_standstill {h : History L} {first : L.State}
    (follows : h.Follows first) {k : Nat} (still : k ∈ L.Standstills first) :
    h.states.size ≤ k + 1 := by
  by_contra inside
  have moved := follows.moved k (by omega)
  rw [Function.iterate_succ_apply'] at moved
  exact moved still.symm

theorem Follows.standstill_cursor_iff {h : History L} {first : L.State}
    (follows : h.Follows first) :
    h.cursor ∈ L.Standstills first ↔ L.step h.current = h.current := by
  rw [follows.current_eq]
  rfl

/-- The ceiling of a counter is the first standstill, if there is one. -/
def Ceiling (first : L.State) (ceiling : Option Nat) : Prop :=
  ∀ k, ceiling = some k ↔ IsLeast (L.Standstills first) k

theorem exists_ceiling (first : L.State) : ∃ ceiling, Ceiling first ceiling := by
  by_cases stands : ∃ k, k ∈ L.Standstills first
  · classical
    have least : IsLeast (L.Standstills first) (Nat.find stands) :=
      ⟨Nat.find_spec stands, fun _ found => Nat.find_min' stands found⟩
    refine ⟨some (Nat.find stands), fun k => ?_⟩
    constructor
    · intro same
      rwa [← Option.some.inj same]
    · intro other
      rw [other.unique least]
  · refine ⟨none, fun k => ?_⟩
    constructor
    · intro found
      contradiction
    · intro least
      exact absurd ⟨k, least.1⟩ stands

theorem Follows.cursor_next {h : History L} {first : L.State} (follows : h.Follows first)
    {ceiling : Option Nat} (bound : Ceiling first ceiling) :
    h.next.cursor = Move.next.count ceiling h.cursor := by
  have inside := h.cursor_lt
  by_cases still : L.step h.current = h.current
  · have least : IsLeast (L.Standstills first) h.cursor := by
      refine ⟨follows.standstill_cursor_iff.mpr still, ?_⟩
      intro k found
      have ends := follows.size_le_of_standstill found
      omega
    rw [follows.next_eq_self_of_still still, (bound h.cursor).mpr least]
    simp [Move.count]
  · rw [cursor_next_of_moving still]
    cases top : ceiling with
    | none => rfl
    | some k =>
        -- The ceiling does not come before the end of the history, and it is not on the
        -- cursor, so there is room for one step.
        have standstill : k ∈ L.Standstills first := ((bound k).mp top).1
        have ends := follows.size_le_of_standstill standstill
        have elsewhere : k ≠ h.cursor := by
          rintro rfl
          exact still (follows.standstill_cursor_iff.mp standstill)
        have below : h.cursor + 1 ≤ k := by omega
        simp [Move.count, Nat.min_eq_left below]

theorem Follows.cursor_move {h : History L} {first : L.State} (follows : h.Follows first)
    {ceiling : Option Nat} (bound : Ceiling first ceiling) (m : Move) :
    (h.move m).cursor = m.count ceiling h.cursor := by
  cases m with
  | next => exact follows.cursor_next bound
  | prev => rfl

theorem Follows.cursor_walk {h : History L} {first : L.State} (follows : h.Follows first)
    {ceiling : Option Nat} (bound : Ceiling first ceiling) (moves : List Move) :
    (h.walk moves).cursor = moves.foldl (Move.count ceiling) h.cursor := by
  induction moves generalizing h with
  | nil => rfl
  | cons m rest ih =>
      have later := ih (follows.move m)
      rw [follows.cursor_move bound m] at later
      exact later

/-! ## The length -/

/-- A history grows exactly when its cursor gets further than ever. -/
theorem size_move (h : History L) (m : Move) :
    (h.move m).size = max h.size ((h.move m).cursor + 1) := by
  have inside := h.cursor_lt
  cases m with
  | prev =>
      simp only [move, prev, size]
      omega
  | next =>
      rcases next_cases h with ⟨more, next⟩ | ⟨last, _, next⟩ | ⟨_, _, next⟩
      · simp only [move, next, size]
        omega
      · simp [move, next, size, extend]
      · simp only [move, next, size]
        omega

/-- The cursors that a walk passes, the one it sets out from included. -/
def Passed (h : History L) (moves : List Move) : Set Nat :=
  {c | ∃ part, part <+: moves ∧ (h.walk part).cursor = c}

theorem passed_concat (h : History L) (moves : List Move) (m : Move) :
    h.Passed (moves ++ [m]) = insert (h.walk (moves ++ [m])).cursor (h.Passed moves) := by
  ext c
  constructor
  · rintro ⟨part, before, here⟩
    rcases List.prefix_concat_iff.mp before with whole | shorter
    · rw [whole] at here
      exact Or.inl here.symm
    · exact Or.inr ⟨part, shorter, here⟩
  · rintro (rfl | ⟨part, before, here⟩)
    · exact ⟨moves ++ [m], List.prefix_rfl, rfl⟩
    · exact ⟨part, before.trans (List.prefix_append moves [m]), here⟩

theorem exists_isGreatest_passed_start (first : L.State) (moves : List Move) :
    ∃ top, IsGreatest ((start first).Passed moves) top ∧
      ((start first).walk moves).size = top + 1 := by
  induction moves using List.reverseRecOn with
  | nil =>
      refine ⟨0, ⟨⟨[], List.prefix_rfl, rfl⟩, ?_⟩, rfl⟩
      rintro c ⟨part, before, here⟩
      rw [List.prefix_nil.mp before] at here
      exact Nat.le_of_eq here.symm
  | append_singleton moves m ih =>
      obtain ⟨top, greatest, size⟩ := ih
      have grows := size_move ((start first).walk moves) m
      rw [← walk_concat, size] at grows
      refine ⟨max ((start first).walk (moves ++ [m])).cursor top, ?_, by omega⟩
      rw [passed_concat]
      exact greatest.insert _

/-! ## Back and forth -/

theorem next_prev_of_moved (h : History L) (moved : h.prev.cursor ≠ h.cursor) :
    h.prev.next = h := by
  have inside := h.cursor_lt
  have back : h.prev.cursor = h.cursor - 1 := rfl
  have again : h.prev.cursor + 1 = h.cursor := by omega
  have more : h.prev.cursor + 1 < h.prev.states.size := by
    rw [again]
    exact inside
  rcases next_cases h.prev with ⟨_, next⟩ | ⟨last, _, _⟩ | ⟨last, _, _⟩
  · rw [next]
    obtain ⟨states, cursor, cursor_lt⟩ := h
    simpa [prev] using again
  · omega
  · omega

/-- A history that is started, or dropped and started again, and then walked back and
forth in any way.  Its cursor is a counter that goes up to the first standstill, if there
is one, and down to zero.  It has one entry more than the highest cursor since the start,
and as many ahead as the cursor is below that.  Forward after a step back that moved is
where the step back came from. -/
theorem walk_counts_to_first_standstill (L : Language) (first : L.State) :
    (∀ dropped : History L, (dropped.restart first).value = start first) ∧
    ∃ ceiling : Option Nat,
      (∀ k, ceiling = some k ↔ IsLeast {i | L.step (L.step^[i] first) = L.step^[i] first} k) ∧
      ∀ moves : List Move,
        let h := (start first).walk moves
        h.cursor = moves.foldl (Move.count ceiling) 0 ∧
        (∃ top, IsGreatest {c | ∃ part, part <+: moves ∧
              ((start first).walk part).cursor = c} top ∧
            h.size = top + 1 ∧ h.ahead = top - h.cursor) ∧
        (h.prev.cursor ≠ h.cursor → h.prev.next = h) := by
  refine ⟨fun dropped => value_restart dropped first, ?_⟩
  obtain ⟨ceiling, bound⟩ := exists_ceiling first
  refine ⟨ceiling, bound, ?_⟩
  intro moves h
  obtain ⟨top, greatest, size⟩ := exists_isGreatest_passed_start first moves
  have ahead : h.ahead = top - h.cursor := by
    have rest : h.ahead = h.size - h.cursor - 1 := rfl
    have long : h.size = top + 1 := size
    omega
  exact ⟨(follows_start first).cursor_walk bound moves, ⟨top, greatest, size, ahead⟩,
    next_prev_of_moved h⟩

/-- Two steps, a move at the standstill that does nothing, and two steps back: the history
keeps its three entries, and going forward undoes a step back. -/
theorem walk_counts_to_first_standstill_of_stepped_back :
    let h := (start (stunStep.seed (.text "-"))).walk [.next, .next, .next, .prev, .prev, .next]
    h.cursor = 1 ∧ h.size = 3 ∧ h.ahead = 1 ∧ h.prev.cursor ≠ h.cursor ∧ h.prev.next = h := by
  intro h
  obtain ⟨_, _, _, walked⟩ :=
    walk_counts_to_first_standstill stunStep (stunStep.seed (.text "-"))
  have moved : h.prev.cursor ≠ h.cursor := by decide +kernel
  exact ⟨by decide +kernel, by decide +kernel, by decide +kernel, moved, (walked _).2.2 moved⟩

end History

end StepLab
