import AxisGrid.Proofs.Index
import AxisGrid.Proofs.Walk

/-! A walk over a grid meets what nested loops over the axes would meet, the first axis in the
outermost loop: every point over the grid, once, ascending by the places of its values. -/
namespace AxisGrid

namespace Radix

/-- All rows of digits, the first digit changing slowest. -/
def rows : List Nat → List (List Nat)
  | [] => [[]]
  | b :: bs => (List.range b).flatMap fun d => (rows bs).map (d :: ·)

theorem range_mul (b n : Nat) :
    List.range (b * n) = (List.range b).flatMap fun d => (List.range n).map (d * n + ·) := by
  induction b with
  | zero => simp
  | succ b ih =>
    rw [Nat.succ_mul, List.range_add, ih, List.range_succ, List.flatMap_append, List.flatMap_singleton]

theorem digits_cons {b d n : Nat} {bs : List Nat} (digit : d < b) (below : n < bs.prod) :
    digits (b :: bs) (d * bs.prod + n) = d :: digits bs n := by
  have first : (d * bs.prod + n) / bs.prod = d := by
    rw [Nat.add_comm, Nat.add_mul_div_right _ _ (by omega), Nat.div_eq_of_lt below, Nat.zero_add]
  rw [digits, first, Nat.mod_eq_of_lt digit, digits_add]

theorem rows_eq (bs : List Nat) : rows bs = (List.range bs.prod).map (digits bs) := by
  induction bs with
  | nil => rfl
  | cons b bs ih =>
    rw [rows, ih, List.prod_cons, range_mul, List.map_flatMap]
    apply List.flatMap_congr
    intro d digit
    rw [List.map_map, List.map_map]
    apply List.map_congr_left
    intro n below
    exact (digits_cons (List.mem_range.mp digit) (List.mem_range.mp below)).symm

theorem digits_lt {bs : List Nat} {i j : Nat} (less : i < j) (below : j < bs.prod) :
    digits bs i < digits bs j := by
  induction bs generalizing i j with
  | nil =>
    rw [List.prod_nil] at below
    omega
  | cons b bs ih =>
    rw [List.prod_cons] at below
    have some : 0 < bs.prod := Nat.pos_of_mul_pos_left (Nat.lt_of_le_of_lt (Nat.zero_le j) below)
    have split (n : Nat) (small : n < b * bs.prod) :
        digits (b :: bs) n = n / bs.prod :: digits bs (n % bs.prod) := by
      have digit : n / bs.prod < b := (Nat.div_lt_iff_lt_mul some).mpr small
      have row := digits_cons digit (Nat.mod_lt n some)
      rwa [Nat.div_add_mod'] at row
    rw [split i (Nat.lt_trans less below), split j below, List.cons_lt_cons_iff]
    -- the first digits decide, and where they are equal the rests do
    rcases Nat.lt_or_eq_of_le (Nat.div_le_div_right (c := bs.prod) (Nat.le_of_lt less)) with smaller | same
    · exact .inl smaller
    · refine .inr ⟨same, ih ?_ (Nat.mod_lt j some)⟩
      have hi := Nat.div_add_mod' i bs.prod
      have hj := Nat.div_add_mod' j bs.prod
      rw [same] at hi
      omega

end Radix

namespace Grid

open Radix

/-- The rows of values that nested loops over the axes visit. -/
def tuples : List Axis → List (List String)
  | [] => [[]]
  | a :: axes => a.values.flatMap fun value => (tuples axes).map (value :: ·)

theorem length_of_mem_tuples {axes : List Axis} {values : List String} (visited : values ∈ tuples axes) :
    values.length = axes.length := by
  induction axes generalizing values with
  | nil =>
    rw [List.mem_singleton.mp visited]
    rfl
  | cons a axes ih =>
    obtain ⟨value, -, row⟩ := List.mem_flatMap.mp visited
    obtain ⟨later, member, rfl⟩ := List.mem_map.mp row
    rw [List.length_cons, List.length_cons, ih member]

theorem flatMap_values {α : Type} (a : Axis) (f : String → List α) :
    a.values.flatMap f = (List.range a.size).flatMap fun d => (a.valueAt? d).elim [] f := by
  have values : (List.range a.size).map a.valueAt? = a.values.map some := by
    apply List.ext_getElem
    · simp [Axis.size]
    · intro d below _
      simp [Axis.valueAt?]
  have found : (a.values.map some).flatMap (Option.elim · [] f) = a.values.flatMap f := by
    rw [List.flatMap_map]
    rfl
  rw [← found, ← values, List.flatMap_map]

theorem zip_tuples (axes : List Axis) :
    (tuples axes).map ((axes.map (·.name)).zip ·) = (rows (axes.map Axis.size)).map (choose axes) := by
  induction axes with
  | nil => rfl
  | cons a axes ih =>
    have bindings : (tuples (a :: axes)).map (((a :: axes).map (·.name)).zip ·)
        = a.values.flatMap fun value =>
            ((tuples axes).map ((axes.map (·.name)).zip ·)).map ((a.name, value) :: ·) := by
      simp only [tuples, List.map_flatMap, List.map_map]
      rfl
    -- from here the outer loop runs over the places of the first axis, on both sides
    rw [bindings, ih, flatMap_values, List.map_cons, rows, List.map_flatMap]
    apply List.flatMap_congr
    intro d below
    obtain ⟨value, at_d⟩ := Axis.exists_valueAt? (List.mem_range.mp below)
    simp [at_d, choose, Function.comp_def]

variable {g : Grid} {n : Nat}

theorem map_ofValues_tuples (g : Grid) :
    (tuples g.axes).map (Point.ofValues g) = ((List.range g.radices.prod).map g.pointAt).map .ok := by
  have bindings := congrArg (List.map fun pairs => Except.ok (ε := PointError) (Point.ofPairs pairs))
    (zip_tuples g.axes)
  rw [rows_eq, List.map_map, List.map_map, List.map_map] at bindings
  rw [List.map_map]
  refine Eq.trans (List.map_congr_left fun values visited => ?_) (bindings.trans ?_)
  · rw [Point.ofValues, if_pos (length_of_mem_tuples visited)]
    rfl
  · apply List.map_congr_left
    intro i _
    exact congrArg Except.ok (pointAt_eq g i).symm

theorem over_pointAt {i : Nat} (below : i < g.radices.prod) : (g.pointAt i).Over g :=
  Point.over_iff.mpr ⟨pointAt_contains below, _, pointAt_places below⟩

theorem exists_pointAt (limit : g.radices.prod ≤ Word.bound) {p : Point} (on_grid : p.Over g) :
    ∃ i, i < g.radices.prod ∧ g.index p = .ok i ∧ g.pointAt i = p := by
  obtain ⟨i, numbered⟩ := exists_index on_grid limit
  obtain ⟨below, named⟩ := pointAt_index numbered
  rw [Point.restrict_of_over on_grid] at named
  exact ⟨i, below, numbered, named⟩

theorem mem_points_iff (limit : g.radices.prod ≤ Word.bound) {p : Point} :
    p ∈ (List.range g.radices.prod).map g.pointAt ↔ p.Over g := by
  constructor
  · intro member
    obtain ⟨i, below, rfl⟩ := List.mem_map.mp member
    exact over_pointAt (List.mem_range.mp below)
  · intro on_grid
    obtain ⟨i, below, -, named⟩ := exists_pointAt limit on_grid
    exact List.mem_map.mpr ⟨i, List.mem_range.mpr below, named⟩

theorem nodup_points (limit : g.radices.prod ≤ Word.bound) :
    ((List.range g.radices.prod).map g.pointAt).Nodup := by
  refine List.Nodup.map_on (fun i hi j hj same => ?_) List.nodup_range
  rw [List.mem_range] at hi hj
  have numbered := index_pointAt hi (Nat.lt_of_lt_of_le hi limit)
  rw [same, index_pointAt hj (Nat.lt_of_lt_of_le hj limit)] at numbered
  exact (Except.ok.inj numbered).symm

theorem pairwise_points (g : Grid) :
    ((List.range g.radices.prod).map g.pointAt).Pairwise fun p q =>
      ∃ ds es, p.Places g.axes ds ∧ q.Places g.axes es ∧ ds < es := by
  rw [List.pairwise_map]
  refine List.pairwise_lt_range.imp_of_mem fun {i j} hi hj less => ?_
  rw [List.mem_range] at hi hj
  exact ⟨_, _, pointAt_places hi, pointAt_places hj, digits_lt less hj⟩

theorem points_eq (counted : g.count? = some n) : g.points = .ok ((List.range n).map g.pointAt) := by
  have all := (Cursor.take_rest ⟨g, 0, n⟩ n).1
  rw [rest_start, List.take_of_length_le (by simp)] at all
  simp [points, Cursor.start, counted, Except.map, all]

/-- The points of a walk are those that nested loops over the axes make of the values, in the same
order. They are as many as the count says, none stands twice, and a point is among them exactly if it
is over the grid. -/
theorem points_eq_nested_loops (counted : g.count? = some n) :
    ∃ points : List Point, g.points = .ok points ∧
      (Cursor.start g).map (·.exhaust.1) = .ok points ∧
      (tuples g.axes).map (Point.ofValues g) = points.map .ok ∧
      points.length = n ∧ points.Nodup ∧ (∀ p, p ∈ points ↔ p.Over g) ∧
      (points.Pairwise fun p q => ∃ ds es, p.Places g.axes ds ∧ q.Places g.axes es ∧ ds < es) ∧
      ((∃ a ∈ g.axes, a.values = []) → points = []) ∧ (g.axes = [] → points = [.empty]) := by
  have limit := Nat.le_of_lt (count?_lt counted)
  have walk : (Cursor.start g).map (·.exhaust.1) = .ok ((List.range n).map g.pointAt) := by
    simp [Cursor.start, counted, Except.map, Cursor.exhaust_eq, rest_start]
  obtain ⟨-, rfl⟩ := count?_eq_some_iff.mp counted
  refine ⟨_, points_eq counted, walk, map_ofValues_tuples g, by simp, nodup_points limit,
    fun p => mem_points_iff limit, pairwise_points g, fun empty => ?_, fun none => ?_⟩
  · obtain ⟨a, member, unvalued⟩ := empty
    have zero : 0 ∈ g.radices := List.mem_map.mpr ⟨a, member, by simp [Axis.size, unvalued]⟩
    rw [List.prod_eq_zero zero]
    rfl
  · have one : g.pointAt 0 = .empty := by simp [pointAt, peel, none, Point.ofPairs, Point.empty]; rfl
    simp [radices, none, one]

/-- The outer loop runs over the axis that comes first in the grid, not over the one that comes first in
a point. -/
theorem points_crossed :
    crossed.count? = some 6 ∧ ∃ points : List Point, crossed.points = .ok points ∧
      [["2", "b"], ["2", "a"], ["2", "c"], ["1", "b"], ["1", "a"], ["1", "c"]].map (Point.ofValues crossed)
        = points.map .ok ∧ points.length = 6 ∧ points.Nodup := by
  have counted : crossed.count? = some 6 := by decide
  obtain ⟨points, all, -, looped, length, nodup, -⟩ := points_eq_nested_loops counted
  exact ⟨counted, points, all, looped, length, nodup⟩

end Grid

end AxisGrid
