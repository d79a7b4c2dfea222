import StepLab.Proofs.Engine.Script

/-! # Invariants of a language

An invariant ties a state to the program it was seeded from.  It holds of the first
state, and wherever it holds the rule of a step has a result for which it holds again.
So it holds along every run, no step of a run faults, and every state in the history
of a sound engine has it. -/

set_option autoImplicit false

namespace StepLab.Language

variable {L : Language}

/-- `P` holds of first states, and steps have results and keep it. -/
structure Invariant (L : Language) (P : Program → L.State → Prop) : Prop where
  seed : ∀ program, P program (L.seed program)
  execute : ∀ program s, P program s → ∃ next, L.execute s = .ok next ∧ P program next

namespace Invariant

variable {P : Program → L.State → Prop}

theorem step (invariant : L.Invariant P) {program : Program} {s : L.State}
    (holds : P program s) : P program (L.step s) := by
  obtain ⟨next, executed, kept⟩ := invariant.execute program s holds
  rw [L.step_eq_of_execute executed]
  exact kept

theorem iterate (invariant : L.Invariant P) (program : Program) (n : Nat) :
    P program (L.step^[n] (L.seed program)) := by
  induction n with
  | zero => exact invariant.seed program
  | succ n ih =>
      rw [Function.iterate_succ_apply']
      exact invariant.step ih

theorem of_mem_history (invariant : L.Invariant P) {e : Engine L} (sound : e.Sound)
    {s : L.State} (member : s ∈ e.history.states) : P e.program s := by
  obtain ⟨i, inside, entry⟩ := Array.getElem_of_mem member
  have orbit := sound.follows.entry i inside
  rw [Array.getElem?_eq_getElem inside, entry] at orbit
  rw [Option.some.inj orbit]
  exact invariant.iterate e.program i

theorem state (invariant : L.Invariant P) {e : Engine L} (sound : e.Sound) :
    P e.program e.state := by
  rw [sound.state_eq]
  exact invariant.iterate e.program e.history.cursor

end Invariant

end StepLab.Language
