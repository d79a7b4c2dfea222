import StepLab.Proofs.Grid.Marks
import StepLab.Proofs.Grid.Torus

/-! # Where a warp leads

A warp sorts all warps of its grid by their distance and takes the second.  Distances are
computed from the numbers of the cells; they are the rows plus the columns that two cells
lie apart, so the warp itself comes first, being the only one at distance zero.  The sort
is stable and starts from the reading order, so the second is a nearest one among the
others and the first of these in reading order. -/

set_option autoImplicit false

namespace StepLab

namespace Dims

/-! ## Distances -/

/-- Rows apart plus columns apart. -/
def apart (d : Dims) (a b : Nat) : Nat :=
  ((d.row a : Int) - d.row b).natAbs + ((d.col a : Int) - d.col b).natAbs

theorem gap_eq_natAbs (a b : Nat) : gap a b = ((b : Int) - a).natAbs := by
  unfold gap
  omega

theorem gap_mul_div (cols a b : Nat) (positive : 0 < cols) :
    gap (cols * a) (cols * b) / cols = gap a b := by
  have factor : gap (cols * a) (cols * b) = cols * gap a b := by
    unfold gap
    rw [← Nat.mul_sub, ← Nat.mul_sub, ← Nat.mul_add]
  rw [factor, Nat.mul_div_cancel_left _ positive]

theorem distance_eq_apart (d : Dims) (p q : Nat) (positive : 0 < d.cols) :
    distance d.cols p q = d.apart q p := by
  have first (cell : Nat) : cell - cell % d.cols = d.cols * (cell / d.cols) := by
    have whole := Nat.div_add_mod cell d.cols
    omega
  rw [distance, first, first, gap_mul_div _ _ _ positive, gap_eq_natAbs, gap_eq_natAbs]
  rfl

theorem apart_eq_zero_iff (d : Dims) (a b : Nat) : d.apart a b = 0 ↔ a = b := by
  constructor
  · intro zero
    unfold apart at zero
    exact eq_of_row_eq_of_col_eq (d := d) (by omega) (by omega)
  · rintro rfl
    simp [apart]

/-- The cell one row up on the torus, in the same column. -/
structure IsAbove (d : Dims) (above cell : Nat) : Prop where
  inside : above < d.area
  col : d.col above = d.col cell
  row : (d.row above : Int) = (d.row cell - 1) % d.rows

theorem isAbove_target_up {d : Dims} {cell : Nat} (inside : cell < d.area) :
    d.IsAbove (d.target cell Direction.up.velocity) cell where
  inside := target_lt_area d cell _ (Nat.zero_lt_of_lt inside)
  col := col_of_eq (target_up inside) (col_lt_cols inside)
  row := (row_col_target inside .up).1

end Dims

/-! ## The second in a stable sort -/

section Second

variable {l : List Nat} {key : Nat → Nat} {p : Nat}

/-- A list with its smallest keys first, equal ones in the order of the list. -/
def sortedBy (key : Nat → Nat) (l : List Nat) : List Nat :=
  l.mergeSort fun a b => key a ≤ key b

theorem pairwise_sortedBy (key : Nat → Nat) (l : List Nat) :
    (sortedBy key l).Pairwise (key · ≤ key ·) := by
  have sorted : (sortedBy key l).Pairwise fun a b => decide (key a ≤ key b) :=
    List.pairwise_mergeSort (by simp; omega) (by simp; omega) l
  simpa using sorted

theorem pair_sublist_sortedBy {a b : Nat} (le : key a ≤ key b) (listed : [a, b].Sublist l) :
    [a, b].Sublist (sortedBy key l) :=
  List.pair_sublist_mergeSort (by simp; omega) (by simp; omega) (by simpa using le) listed

theorem mem_sortedBy {a : Nat} : a ∈ sortedBy key l ↔ a ∈ l := List.mem_mergeSort

theorem pair_sublist_of_pairwise_lt (ordered : l.Pairwise (· < ·)) {a b : Nat} (less : a < b)
    (left : a ∈ l) (right : b ∈ l) : [a, b].Sublist l := by
  have members : [a, b] ⊆ l := by simp [left, right]
  have distinct : [a, b].Nodup := by simp [Nat.ne_of_lt less]
  have pair : [a, b].Pairwise (· < ·) := by simpa using less
  exact List.sublist_of_subperm_of_pairwise (List.subperm_of_subset distinct members) pair ordered

theorem exists_sortedBy_eq_cons (member : p ∈ l) (self : key p = 0)
    (only : ∀ q ∈ l, key q = 0 → q = p) : ∃ rest, sortedBy key l = p :: rest := by
  have sorted := pairwise_sortedBy key l
  have listed : p ∈ sortedBy key l := mem_sortedBy.mpr member
  cases found : sortedBy key l with
  | nil => simp [found] at listed
  | cons head rest =>
      rw [found] at sorted listed
      rcases List.mem_cons.mp listed with rfl | later
      · exact ⟨rest, rfl⟩
      · have least := List.rel_of_pairwise_cons sorted later
        have same := only head (mem_sortedBy.mp (found ▸ List.mem_cons_self)) (by omega)
        exact ⟨rest, by rw [same]⟩

theorem not_pair_sublist_of_nodup {t q : Nat} {rest : List Nat}
    (distinct : (p :: t :: rest).Nodup) (first : q ≠ p) (second : q ≠ t) :
    ¬ [q, t].Sublist (p :: t :: rest) := by
  have fresh : t ∉ rest := (List.nodup_cons.mp (List.nodup_cons.mp distinct).2).1
  intro pair
  cases pair with
  | cons_cons => exact first rfl
  | cons _ behind =>
      cases behind with
      | cons_cons => exact second rfl
      | cons _ further => exact fresh (further.subset (by simp))

/-- The second entry, when the first is the only one with key zero: a smallest one of the
others, and the first of those in the list. -/
theorem second_of_sortedBy (ordered : l.Pairwise (· < ·)) (member : p ∈ l) (self : key p = 0)
    (only : ∀ q ∈ l, key q = 0 → q = p) (other : ∃ q ∈ l, q ≠ p) :
    ∃ t, (sortedBy key l)[1]? = some t ∧ t ∈ l ∧ t ≠ p ∧
      (∀ q ∈ l, q ≠ p → key t ≤ key q) ∧ (∀ q ∈ l, q ≠ p → q < t → key t < key q) := by
  have sorted := pairwise_sortedBy key l
  have distinct : (sortedBy key l).Nodup := (List.mergeSort_perm l _).nodup_iff.mpr ordered.nodup
  obtain ⟨rest, headed⟩ := exists_sortedBy_eq_cons member self only
  have inRest {q : Nat} (listed : q ∈ l) (different : q ≠ p) : q ∈ rest := by
    have found : q ∈ sortedBy key l := mem_sortedBy.mpr listed
    rw [headed] at found
    exact (List.mem_cons.mp found).resolve_left different
  cases rest with
  | nil =>
      obtain ⟨q, listed, different⟩ := other
      cases inRest listed different
  | cons t rest =>
      rw [headed] at sorted distinct
      have notFirst : t ≠ p := by
        rintro rfl
        exact (List.nodup_cons.mp distinct).1 List.mem_cons_self
      have least : ∀ q ∈ l, q ≠ p → key t ≤ key q := by
        intro q listed different
        rcases List.mem_cons.mp (inRest listed different) with rfl | later
        · exact Nat.le_refl _
        · exact List.rel_of_pairwise_cons (List.pairwise_cons.mp sorted).2 later
      have found : t ∈ sortedBy key l := by simp [headed]
      refine ⟨t, by simp [headed], mem_sortedBy.mp found, notFirst, least, ?_⟩
      intro q listed different earlier
      by_contra tie
      -- The sort keeps the earlier of two equal ones in front, but only `p` is in front.
      have pair := pair_sublist_sortedBy (Nat.le_of_not_lt tie)
        (pair_sublist_of_pairwise_lt ordered earlier listed (mem_sortedBy.mp found))
      rw [headed] at pair
      exact not_pair_sublist_of_nodup distinct different (Nat.ne_of_lt earlier) pair

end Second

namespace Wii2d

/-! ## The step -/

theorem warpTarget_eq (g : Grid) (p : Nat) :
    warpTarget g p =
      ((sortedBy (Dims.distance g.dims.cols p) (g.positions warpMark))[1]?).getD p := rfl

theorem key_eq_zero_iff {g : Grid} {p : Nat} (warp : g.get? p = some warpMark) (q : Nat) :
    Dims.distance g.dims.cols p q = 0 ↔ q = p := by
  have inside := g.lt_area_of_get?_eq_some p warpMark warp
  have positive := Nat.zero_lt_of_lt (Dims.col_lt_cols inside)
  rw [Dims.distance_eq_apart _ _ _ positive, Dims.apart_eq_zero_iff]

/-- A warp other than `p`, with none nearer to `p` and none as near before it. -/
structure NearestOther (g : Grid) (p t : Nat) : Prop where
  warp : g.get? t = some '@'
  other : t ≠ p
  nearest : ∀ q, q ≠ p → g.get? q = some '@' → g.dims.apart t p ≤ g.dims.apart q p
  first : ∀ q, q ≠ p → g.get? q = some '@' → q < t → g.dims.apart t p < g.dims.apart q p

theorem nearestOther_warpTarget {g : Grid} {p : Nat} (warp : g.get? p = some '@')
    (several : ∃ q, q ≠ p ∧ g.get? q = some '@') : NearestOther g p (warpTarget g p) := by
  have inside := g.lt_area_of_get?_eq_some p '@' warp
  have positive := Nat.zero_lt_of_lt (Dims.col_lt_cols inside)
  have listed (q : Nat) : q ∈ g.positions warpMark ↔ g.get? q = some '@' :=
    g.mem_positions_iff warpMark q
  have other : ∃ q ∈ g.positions warpMark, q ≠ p := by
    obtain ⟨q, different, found⟩ := several
    exact ⟨q, (listed q).mpr found, different⟩
  obtain ⟨t, second, member, different, least, first⟩ :=
    second_of_sortedBy (g.pairwise_lt_positions warpMark) ((listed p).mpr warp)
      ((key_eq_zero_iff warp p).mpr rfl) (fun q _ => (key_eq_zero_iff warp q).mp) other
  simp only [Dims.distance_eq_apart _ _ _ positive] at least first
  rw [warpTarget_eq, second]
  refine ⟨(listed t).mp member, different, ?_, ?_⟩
  · intro q other found
    exact least q ((listed q).mpr found) other
  · intro q other found earlier
    exact first q ((listed q).mpr found) other earlier

theorem warpTarget_of_only {g : Grid} {p : Nat} (warp : g.get? p = some '@')
    (only : ∀ q, g.get? q = some '@' → q = p) : warpTarget g p = p := by
  have alone : g.positions warpMark = [p] := by
    refine (g.pairwise_lt_positions warpMark).eq_of_mem_iff (List.pairwise_singleton _ p) ?_
    intro q
    rw [g.mem_positions_iff, List.mem_singleton]
    constructor
    · exact only q
    · rintro rfl
      exact warp
  rw [warpTarget_eq, alone, sortedBy, List.mergeSort_singleton]
  rfl

theorem get?_warpTarget {g : Grid} {p : Nat} (warp : g.get? p = some '@') :
    g.get? (warpTarget g p) = some '@' := by
  by_cases several : ∃ q, q ≠ p ∧ g.get? q = some '@'
  · exact (nearestOther_warpTarget warp several).warp
  · rw [warpTarget_of_only warp]
    · exact warp
    · intro q found
      by_contra different
      exact several ⟨q, different, found⟩

theorem execute_of_warp {s : State} {p : Nat} (going : s.ended = false)
    (here : s.position = some p) (warp : s.grid.get? p = some '@') :
    execute s = .ok { s with
      position := some (s.grid.dims.target (warpTarget s.grid p) Direction.up.velocity) } := by
  have cells := Nat.zero_lt_of_lt (s.grid.lt_area_of_get?_eq_some p '@' warp)
  have read : opAt s.grid p = some .warp := by rw [opAt, warp]; rfl
  have executed : execute s = executeAt s p := by simp [execute, going, here]
  rw [executed, executeAt, read]
  show Except.map _ (s.grid.dims.move _ _) = _
  rw [Dims.move_of_area_pos _ _ _ cells]
  rfl

/-- A warp leads one row up from the nearest other warp, the first in reading order of
equally near ones, or from itself when it is the only one; nothing but the position of
the state changes. -/
theorem warp_leads_above_nearest_other (s : State) (p : Nat) (going : s.ended = false)
    (here : s.position = some p) (warp : s.grid.get? p = some '@') :
    ∃ t above, execute s = .ok { s with position := some above } ∧
      s.grid.dims.IsAbove above t ∧
      ((∃ q, q ≠ p ∧ s.grid.get? q = some '@') → NearestOther s.grid p t) ∧
      ((∀ q, s.grid.get? q = some '@' → q = p) → t = p) := by
  have inside := s.grid.lt_area_of_get?_eq_some _ _ (get?_warpTarget warp)
  refine ⟨warpTarget s.grid p, _, execute_of_warp going here warp,
    Dims.isAbove_target_up inside, ?_, ?_⟩
  · exact nearestOther_warpTarget warp
  · exact warpTarget_of_only warp

/-- From the middle of a ring of warps the way leads to the one in the first row, and from
the top row around to the bottom row; a warp without others leads up from itself. -/
theorem warp_leads_above_nearest_other_of_tie_and_alone :
    let tied : State :=
      { position := some 4, rng := 0
        grid := Grid.ofCells ⟨3, 3⟩ ['.', '@', '!', '@', '@', '@', '.', '@'] }
    let alone : State :=
      { position := some 1, rng := 0, grid := Grid.ofCells ⟨2, 2⟩ ['!', '@', ' ', '.'] }
    (∃ t above, execute tied = .ok { tied with position := some above } ∧
      tied.grid.dims.IsAbove above t ∧ NearestOther tied.grid 4 t) ∧
    (∃ above, execute alone = .ok { alone with position := some above } ∧
      alone.grid.dims.IsAbove above 1) := by
  intro tied alone
  have middle : tied.grid.get? 4 = some '@' := by decide +kernel
  have others : ∃ q, q ≠ 4 ∧ tied.grid.get? q = some '@' := ⟨1, by decide +kernel⟩
  have single : alone.grid.get? 1 = some '@' := by decide +kernel
  have only : ∀ q, alone.grid.get? q = some '@' → q = 1 := by
    intro q found
    have listed : alone.grid.positions '@' = [1] := by decide +kernel
    simpa [listed] using (alone.grid.mem_positions_iff '@' q).mpr found
  constructor
  · obtain ⟨t, above, executed, isAbove, nearest, _⟩ :=
      warp_leads_above_nearest_other tied 4 rfl rfl middle
    exact ⟨t, above, executed, isAbove, nearest others⟩
  · obtain ⟨t, above, executed, isAbove, _, itself⟩ :=
      warp_leads_above_nearest_other alone 1 rfl rfl single
    exact ⟨above, executed, itself only ▸ isAbove⟩

end Wii2d

end StepLab
