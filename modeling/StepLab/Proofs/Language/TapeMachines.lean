import StepLab.Language.StunStep
import StepLab.Language.Suffolk
import StepLab.Proofs.Language.Invariant

/-! # The machines on a tape alone

The pointer of a tape stays on its cells, because the tape grows before the pointer
leaves it.  A machine on a tape alone is indexed when it has the code it was seeded
with, stands at an instruction of it or past the last one, and points to a cell.  Stun
Step and Suffolk stay indexed, so neither of them ever misses a cell. -/

set_option autoImplicit false

namespace StepLab

namespace Tape

def Inside (t : Tape) : Prop := t.pointer < t.cells.size

def write (t : Tape) (cell : Int64) : Tape :=
  { t with cells := t.cells.setIfInBounds t.pointer cell }

theorem inside_default : ({} : Tape).Inside := Nat.zero_lt_one

theorem read_of_inside (t : Tape) (inside : t.Inside) : t.read = .ok t.current := by
  rw [read_of_lt t inside, current, Array.getElem?_eq_getElem inside, Option.getD_some]

theorem update_of_inside (t : Tape) (inside : t.Inside) (f : Int64 → Int64) :
    t.update f = .ok (t.write (f t.current)) := by
  rw [update, read_of_inside t inside]
  rfl

namespace Inside

variable {t : Tape}

theorem write (inside : t.Inside) (cell : Int64) : (t.write cell).Inside := by
  simpa [Inside, Tape.write] using inside

theorem right (inside : t.Inside) (fresh : Int64) : (t.right fresh).Inside :=
  pointer_right_lt t fresh inside

theorem left (inside : t.Inside) : t.left.Inside := by
  have bound : t.pointer < t.cells.size := inside
  show t.pointer - 1 < t.cells.size
  omega

theorem rewind (inside : t.Inside) : t.rewind.Inside :=
  Nat.zero_lt_of_lt inside

end Inside

end Tape

/-- A machine reads its program and points to a cell of its tape. -/
structure Indexed {Op : Type} (program code : Array Op) (index : Nat) (tape : Tape) :
    Prop where
  code_eq : code = program
  index_le : index ≤ code.size
  inside : tape.Inside

namespace Indexed

variable {Op : Type} {program code : Array Op} {index : Nat} {tape : Tape}

theorem start (program : Array Op) : Indexed program program 0 {} :=
  ⟨rfl, Nat.zero_le _, Tape.inside_default⟩

theorem rewound (indexed : Indexed program code index tape) :
    Indexed program code 0 tape :=
  ⟨indexed.code_eq, Nat.zero_le _, indexed.inside⟩

/-- An instruction that was found is not the end of the code. -/
theorem advanced (indexed : Indexed program code index tape) {op : Op}
    (found : code[index]? = some op) : Indexed program code (index + 1) tape :=
  ⟨indexed.code_eq, (Array.getElem?_eq_some_iff.mp found).1, indexed.inside⟩

theorem with_tape (indexed : Indexed program code index tape) {after : Tape}
    (inside : after.Inside) : Indexed program code index after :=
  ⟨indexed.code_eq, indexed.index_le, inside⟩

end Indexed

namespace StunStep

theorem length_writeCode (code : Array Op) : (writeCode code).length = code.size := by
  simp [writeCode]

def Sound (program : Program) (s : State) : Prop :=
  Indexed (readCode program.toText) s.code s.index s.tape

theorem perform_inside (op : Op) (t : Tape) (inside : t.Inside) :
    ∃ after, perform op t = .ok after ∧ after.Inside := by
  cases op with
  | raise => exact ⟨_, Tape.update_of_inside t inside _, inside.write _⟩
  | lower =>
      by_cases zero : t.current = 0
      · exact ⟨t, by simp [perform, zero], inside⟩
      · refine ⟨_, ?_, inside.write (t.current - 1)⟩
        simp [perform, zero, Tape.update_of_inside t inside]
  | right =>
      by_cases zero : t.current = 0
      · exact ⟨t, by simp [perform, zero], inside⟩
      · exact ⟨_, by simp [perform, zero], inside.right 1⟩
  | left =>
      by_cases zero : t.current = 0
      · exact ⟨t, by simp [perform, zero], inside⟩
      · exact ⟨_, by simp [perform, zero], inside.left⟩

theorem execute_sound (program : Program) (s : State) (sound : Sound program s) :
    ∃ next, execute s = .ok next ∧ Sound program next := by
  by_cases resting : s.ended && s.tape.current = 0
  · exact ⟨s, by rw [execute, if_pos resting], sound⟩
  · rw [execute, if_neg resting]
    cases found : s.code[s.index]? with
    | none => exact ⟨_, rfl, sound.rewound⟩
    | some op =>
        obtain ⟨tape, performed, inside⟩ := perform_inside op s.tape sound.inside
        simp only [performed]
        exact ⟨_, rfl, (sound.advanced found).with_tape inside⟩

theorem invariant : stunStep.Invariant Sound where
  seed program := Indexed.start (readCode program.toText)
  execute := execute_sound

end StunStep

namespace Suffolk

theorem length_writeCode (code : Array Op) : (writeCode code).length = code.size := by
  simp [writeCode]

def Sound (program : Program) (s : State) : Prop :=
  Indexed (readCode program.toText) s.code s.index s.tape

theorem perform_sound (program : Program) (op : Op) (s : State) (sound : Sound program s) :
    ∃ next, perform op s = .ok next ∧ Sound program next := by
  have inside := sound.inside
  cases op with
  | right => exact ⟨_, rfl, sound.with_tape (inside.right 0)⟩
  | collect =>
      simp only [perform, Tape.read_of_inside s.tape inside]
      exact ⟨_, rfl, sound.with_tape inside.rewind⟩
  | settle =>
      simp only [perform, Tape.update_of_inside s.tape inside]
      exact ⟨_, rfl, sound.with_tape (inside.write _).rewind⟩
  | read =>
      simp only [perform]
      cases s.input[s.consumed]? with
      | none => exact ⟨_, rfl, sound⟩
      | some c => exact ⟨_, rfl, sound⟩
  | write =>
      refine ⟨_, rfl, ?_⟩
      split
      · exact sound
      · exact sound

theorem execute_sound (program : Program) (s : State) (sound : Sound program s) :
    ∃ next, execute s = .ok next ∧ Sound program next := by
  rw [execute]
  cases found : s.code[s.index]? with
  | none => exact ⟨_, rfl, sound.rewound⟩
  | some op => exact perform_sound program op _ (sound.advanced found)

theorem invariant (input : String) : (suffolk input).Invariant Sound where
  seed program := Indexed.start (readCode program.toText)
  execute := execute_sound

end Suffolk

end StepLab
