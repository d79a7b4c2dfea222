import Mathlib.Data.List.Sort
import StepLab.Proofs.Language.TorusMachines

/-! # Marks on a grid

The cells that hold a character are listed in reading order, each of them once, so the
list is determined by which cells those are.  Two grids of one size have the same marks
when cell by cell they hold the same character, or both hold one that is no mark; such
grids list the same cells for every mark. -/

set_option autoImplicit false

namespace StepLab.Grid

theorem pairwise_lt_positions (g : Grid) (c : Char) : (g.positions c).Pairwise (· < ·) := by
  have listed : (g.positions c).Sublist (g.cells.toList.zipIdx.map Prod.snd) :=
    List.filter_sublist.map Prod.snd
  rw [List.zipIdx_map_snd] at listed
  exact List.Pairwise.sublist listed List.pairwise_lt_range'

theorem positions_eq_of_get?_iff {g h : Grid} {c : Char}
    (same : ∀ i, g.get? i = some c ↔ h.get? i = some c) : g.positions c = h.positions c := by
  refine (g.pairwise_lt_positions c).eq_of_mem_iff (h.pairwise_lt_positions c) ?_
  intro i
  rw [mem_positions_iff, mem_positions_iff, same]

/-- Two grids of one size that differ in nothing but characters that are no marks. -/
structure SameMarks (marks : List Char) (g h : Grid) : Prop where
  dims : g.dims = h.dims
  cells : ∀ i < g.dims.area, g.get? i = h.get? i ∨
    g.get? i ∉ marks.map some ∧ h.get? i ∉ marks.map some

namespace SameMarks

variable {marks : List Char} {g h : Grid}

/-- Outside the grids there is nothing to differ in. -/
theorem cases (same : SameMarks marks g h) (i : Nat) :
    g.get? i = h.get? i ∨ g.get? i ∉ marks.map some ∧ h.get? i ∉ marks.map some := by
  by_cases inside : i < g.dims.area
  · exact same.cells i inside
  · left
    have left : ¬ (g.get? i).isSome := by rwa [isSome_get?_iff]
    have right : ¬ (h.get? i).isSome := by rwa [isSome_get?_iff, ← same.dims]
    rw [Option.not_isSome_iff_eq_none.mp left, Option.not_isSome_iff_eq_none.mp right]

theorem get?_iff (same : SameMarks marks g h) {c : Char} (mark : c ∈ marks) (i : Nat) :
    g.get? i = some c ↔ h.get? i = some c := by
  have listed : some c ∈ marks.map some := List.mem_map_of_mem mark
  rcases same.cases i with equal | ⟨left, right⟩
  · rw [equal]
  · constructor
    · intro here
      rw [here] at left
      exact absurd listed left
    · intro here
      rw [here] at right
      exact absurd listed right

theorem positions_eq (same : SameMarks marks g h) {c : Char} (mark : c ∈ marks) :
    g.positions c = h.positions c :=
  positions_eq_of_get?_iff (same.get?_iff mark)

theorem bind_eq_none_of_not_mark {α : Type} {read : Char → Option α}
    (inert : ∀ c, c ∉ marks → read c = none) {cell : Option Char}
    (other : cell ∉ marks.map some) : cell.bind read = none := by
  cases cell with
  | none => rfl
  | some c =>
      apply inert
      intro mark
      exact other (List.mem_map_of_mem mark)

/-- What is read from the marks alone is the same in every cell. -/
theorem bind_get?_eq (same : SameMarks marks g h) {α : Type} {read : Char → Option α}
    (inert : ∀ c, c ∉ marks → read c = none) (i : Nat) :
    (g.get? i).bind read = (h.get? i).bind read := by
  rcases same.cases i with equal | ⟨left, right⟩
  · rw [equal]
  · rw [bind_eq_none_of_not_mark inert left, bind_eq_none_of_not_mark inert right]

end SameMarks

end StepLab.Grid
