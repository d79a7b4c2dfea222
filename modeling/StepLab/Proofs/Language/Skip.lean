import Mathlib.Order.Nat
import StepLab.Proofs.Grid.Torus
import StepLab.Proofs.Language.InertCells

/-! # The way of a skip

A skip on a zero bit moves until it reaches a directive.  The loop has no bound of its own:
`SkipLoop` is that loop as a relation, so a triple in it is a loop that comes to an end.
It does, because repeated moves lead around the torus to the skip itself, which is a
directive; the way there is a row or a column at most, and so at most the number of cells,
which is what `scan` counts down from. -/

set_option autoImplicit false

namespace StepLab.Back

/-- A cell that a skip stops at. -/
def IsDirective (g : Grid) (cell : Nat) : Prop := ∃ c ∈ directives, g.get? cell = some c

instance (g : Grid) (cell : Nat) : Decidable (IsDirective g cell) :=
  List.decidableBEx (g.get? cell = some ·) directives

/-- The loop of a skip from a cell, with the number of its moves and the cell it stops at. -/
inductive SkipLoop (g : Grid) (velocity : Int8) : Nat → Nat → Nat → Prop where
  | found {start cell : Nat} (moved : g.dims.move start velocity = .ok cell)
      (directive : IsDirective g cell) : SkipLoop g velocity start 1 cell
  | onward {start cell moves last : Nat} (moved : g.dims.move start velocity = .ok cell)
      (other : ¬ IsDirective g cell) (rest : SkipLoop g velocity cell moves last) :
      SkipLoop g velocity start (moves + 1) last

section Loop

variable {g : Grid} {velocity : Int8}

theorem SkipLoop.unique {start moves last otherMoves otherLast : Nat}
    (loop : SkipLoop g velocity start moves last)
    (other : SkipLoop g velocity start otherMoves otherLast) :
    otherMoves = moves ∧ otherLast = last := by
  induction loop generalizing otherMoves with
  | found moved directive =>
      cases other with
      | found again _ =>
          cases moved.symm.trans again
          exact ⟨rfl, rfl⟩
      | onward again none _ =>
          cases moved.symm.trans again
          exact absurd directive none
  | onward moved none _ ih =>
      cases other with
      | found again directive =>
          cases moved.symm.trans again
          exact absurd directive none
      | onward again _ rest =>
          cases moved.symm.trans again
          obtain ⟨rfl, rfl⟩ := ih rest
          exact ⟨rfl, rfl⟩

/-- A loop that ends within the fuel is what `scan` computes. -/
theorem SkipLoop.scan_eq {start moves last : Nat} (loop : SkipLoop g velocity start moves last)
    (fuel : Nat) (enough : moves ≤ fuel) : scan g velocity fuel start = .ok last := by
  induction loop generalizing fuel with
  | @found start cell moved directive =>
      obtain ⟨fuel, rfl⟩ := Nat.exists_eq_add_of_le' enough
      have read : (opAt g cell).isSome := (isSome_opAt_iff g cell).mpr directive
      simp [scan, moved, read]
  | @onward start cell moves last moved other _ ih =>
      obtain ⟨fuel, rfl⟩ := Nat.exists_eq_add_of_le' (Nat.le_of_add_left_le enough)
      have read : ¬ (opAt g cell).isSome := fun found => other ((isSome_opAt_iff g cell).mp found)
      have rest := ih fuel (by omega)
      simp [scan, moved, read, rest]

theorem skipLoop_of_first (cells : 0 < g.dims.area) (k start : Nat)
    (found : IsDirective g ((g.dims.target · velocity)^[k + 1] start))
    (first : ∀ j < k, ¬ IsDirective g ((g.dims.target · velocity)^[j + 1] start)) :
    SkipLoop g velocity start (k + 1) ((g.dims.target · velocity)^[k + 1] start) := by
  induction k generalizing start with
  | zero => exact .found (Dims.move_of_area_pos _ start velocity cells) found
  | succ k ih =>
      have moved := Dims.move_of_area_pos g.dims start velocity cells
      refine .onward moved (first 0 (Nat.zero_lt_succ k)) ?_
      apply ih
      · exact found
      · intro j earlier
        exact first (j + 1) (Nat.succ_lt_succ earlier)

end Loop

/-- From a skip, a directive is reached within one turn around the torus, the first of
them after at least one move. -/
theorem exists_first_directive {g : Grid} {p : Nat} (plus : g.get? p = some '+')
    (velocity : Int8) :
    ∃ k ≤ g.dims.period velocity,
      IsLeast {k | 1 ≤ k ∧ IsDirective g ((g.dims.target · velocity)^[k] p)} k := by
  have inside := g.lt_area_of_get?_eq_some p '+' plus
  have around : 1 ≤ g.dims.period velocity ∧
      IsDirective g ((g.dims.target · velocity)^[g.dims.period velocity] p) := by
    refine ⟨Dims.period_pos inside velocity, ?_⟩
    rw [Dims.iterate_target_period inside]
    exact ⟨'+', by decide, plus⟩
  have hit : ∃ k, 1 ≤ k ∧ IsDirective g ((g.dims.target · velocity)^[k] p) := ⟨_, around⟩
  have least := Nat.isLeast_find hit
  exact ⟨Nat.find hit, least.2 around, least⟩

theorem skipLoop_iff_of_isLeast {g : Grid} {velocity : Int8} {p k : Nat} (cells : 0 < g.dims.area)
    (least : IsLeast {k | 1 ≤ k ∧ IsDirective g ((g.dims.target · velocity)^[k] p)} k)
    (moves cell : Nat) :
    SkipLoop g velocity p moves cell ↔
      moves = k ∧ cell = (g.dims.target · velocity)^[k] p := by
  obtain ⟨⟨moved, found⟩, first⟩ := least
  obtain ⟨k, rfl⟩ := Nat.exists_eq_add_of_le' moved
  have loop : SkipLoop g velocity p (k + 1) ((g.dims.target · velocity)^[k + 1] p) := by
    refine skipLoop_of_first cells k p found ?_
    intro j earlier directive
    have bound := first ⟨Nat.le_add_left 1 j, directive⟩
    omega
  constructor
  · exact loop.unique
  · rintro ⟨rfl, rfl⟩
    exact loop

theorem execute_of_skip {s : State} {p reached : Nat} (going : s.ended = false)
    (here : s.position = some p) (plus : s.grid.get? p = some '+')
    (zero : s.tape.read = .ok 0) (skipped : skipTo s p = .ok reached) :
    execute s = .ok { s with position := some (s.grid.dims.target reached s.velocity) } := by
  have cells := Nat.zero_lt_of_lt (s.grid.lt_area_of_get?_eq_some p '+' plus)
  have read : opAt s.grid p = some .skip := by rw [opAt, plus]; rfl
  have executed : execute s = executeAt s p := by simp [execute, going, here]
  rw [executed]
  simp only [executeAt, read, zero]
  show (skipTo s p >>= advance s) = _
  rw [skipped]
  show advance s reached = _
  rw [advance, Dims.move_of_area_pos _ _ _ cells]
  rfl

/-- The loop of a skip stops at the first directive along its way, after one move at least
and a whole row or column at most; a step on a zero bit goes one move past it, and nothing
else changes. -/
theorem skip_passes_first_directive (s : State) (p : Nat) (plus : s.grid.get? p = some '+') :
    let reached := fun k => (s.grid.dims.target · s.velocity)^[k] p
    ∃ k, IsLeast {k | 1 ≤ k ∧ ∃ c ∈ directives, s.grid.get? (reached k) = some c} k ∧
      (∀ moves cell, SkipLoop s.grid s.velocity p moves cell ↔ moves = k ∧ cell = reached k) ∧
      (s.velocity = 1 ∨ s.velocity = -1 → k ≤ s.grid.dims.cols) ∧
      (s.velocity = 2 ∨ s.velocity = -2 → k ≤ s.grid.dims.rows) ∧
      (s.ended = false → s.position = some p → s.tape.read = .ok 0 →
        execute s =
          .ok { s with position := some (s.grid.dims.target (reached k) s.velocity) }) := by
  intro reached
  have inside := s.grid.lt_area_of_get?_eq_some p '+' plus
  obtain ⟨k, bound, least⟩ := exists_first_directive plus s.velocity
  have loops := skipLoop_iff_of_isLeast (Nat.zero_lt_of_lt inside) least
  have skipped : skipTo s p = .ok (reached k) := by
    apply SkipLoop.scan_eq ((loops k (reached k)).mpr ⟨rfl, rfl⟩)
    exact bound.trans (Dims.period_le_area inside s.velocity)
  refine ⟨k, least, loops, ?_, ?_, ?_⟩
  · rintro (right | left)
    · rwa [right] at bound
    · rwa [left] at bound
  · rintro (down | up)
    · rwa [down] at bound
    · rwa [up] at bound
  · intro going here zero
    exact execute_of_skip going here plus zero skipped

/-- The only directive of the middle row is the skip itself: the way leads once around. -/
theorem skip_passes_first_directive_around_row :
    let s : State := { position := some 4, grid := Grid.ofCells ⟨3, 3⟩ [' ', '-', ' ', 'a', '+'] }
    s.grid.get? 4 = some '+' ∧ s.ended = false ∧ s.tape.read = .ok 0 ∧
      SkipLoop s.grid s.velocity 4 3 4 ∧ execute s = .ok { s with position := some 5 } := by
  intro s
  have plus : s.grid.get? 4 = some '+' := by decide +kernel
  have zero : s.tape.read = .ok 0 := rfl
  have blank : ∀ k, k = 1 ∨ k = 2 →
      ¬ IsDirective s.grid ((s.grid.dims.target · s.velocity)^[k] 4) := by
    rintro k (rfl | rfl) <;> decide +kernel
  obtain ⟨k, least, loops, horizontal, _, executed⟩ := skip_passes_first_directive s 4 plus
  have within : k ≤ 3 := horizontal (Or.inl rfl)
  obtain ⟨⟨moved, found⟩, _⟩ := least
  obtain rfl : k = 3 := by
    by_contra less
    exact blank k (by omega) found
  have around : (s.grid.dims.target · s.velocity)^[3] 4 = 4 := by decide +kernel
  have past : s.grid.dims.target 4 s.velocity = 5 := by decide +kernel
  have stepped := executed rfl rfl zero
  simp only [around, past] at stepped
  exact ⟨plus, rfl, zero, (loops 3 4).mpr ⟨rfl, around.symm⟩, stepped⟩

end StepLab.Back
