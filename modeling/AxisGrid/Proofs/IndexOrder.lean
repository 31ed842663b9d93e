import AxisGrid.Proofs.ByteOrder
import AxisGrid.Proofs.Order
import AxisGrid.Proofs.Product

/-! Where the names of a grid ascend, a point keeps its entries in the order of the axes, so the first digit in
which two indexes differ is the first entry in which their points do. Where the values of each axis ascend too,
the greater digit is the greater value: indexes and points are in one order, and a walk over the grid is sorted. -/
namespace AxisGrid

theorem Axis.compare_of_lt {a : Axis} {d e : Nat} {v w : String}
    (ascending : a.values.Pairwise fun v w => compare v w = .lt) (less : d < e)
    (at_d : a.valueAt? d = some v) (at_e : a.valueAt? e = some w) : compare v w = .lt := by
  obtain ⟨inside, rfl⟩ := List.getElem?_eq_some_iff.mp at_d
  obtain ⟨inside', rfl⟩ := List.getElem?_eq_some_iff.mp at_e
  exact List.pairwise_iff_getElem.mp ascending d e inside inside' less

theorem Point.compareEntries_same_name (name v w : String) :
    compareEntries (name, v) (name, w) = compare v w := by
  have names : compare name name = .eq := Std.ReflCmp.compare_self
  unfold compareEntries compareLex compareOn
  simp only [names, Ordering.then]

namespace Grid

open Radix Point

structure Ascending (g : Grid) : Prop where
  names : g.names.Pairwise fun k l => compare k l = .lt
  values : ∀ a ∈ g.axes, a.values.Pairwise fun v w => compare v w = .lt

theorem firstDifference_choose {axes : List Axis} {ds es : List Nat}
    (values : ∀ a ∈ axes, a.values.Pairwise fun v w => compare v w = .lt)
    (fits : Fits (axes.map Axis.size) ds) (fits' : Fits (axes.map Axis.size) es) (less : ds < es) :
    firstDifference (choose axes ds) (choose axes es) = .lt := by
  induction axes generalizing ds es with
  | nil =>
    cases fits
    cases fits'
    exact absurd less (List.lt_irrefl [])
  | cons a axes ih =>
    obtain ⟨ascending, values⟩ := List.forall_mem_cons.mp values
    cases fits with
    | @cons _ d _ ds below rest =>
      cases fits' with
      | @cons _ e _ es below' rest' =>
        obtain ⟨v, at_d⟩ := Axis.exists_valueAt? below
        obtain ⟨w, at_e⟩ := Axis.exists_valueAt? below'
        simp only [choose, at_d, at_e, firstDifference_cons, compareEntries_same_name]
        -- digits of one axis are in the order of its values, and equal digits leave it to the rest
        rcases List.cons_lt_cons_iff.mp less with smaller | ⟨rfl, later⟩
        · rw [Axis.compare_of_lt ascending smaller at_d at_e]
          rfl
        · cases at_d.symm.trans at_e
          have same : compare v v = .eq := Std.ReflCmp.compare_self
          rw [same]
          exact ih values rest rest' later

section Ascending

variable {g : Grid} {n i j : Nat}

theorem entries_pointAt (ascending : g.Ascending) (below : i < g.radices.prod) :
    (g.pointAt i).entries = choose g.axes (digits g.radices i) := by
  have names : ((choose g.axes (digits g.radices i)).map (·.1)).Pairwise fun k l => compare k l = .lt := by
    rw [names_choose (digits_fit below)]
    exact ascending.names
  rw [pointAt_eq]
  exact Table.entries_ofList (List.pairwise_map.mp names)

theorem size_pointAt (ascending : g.Ascending) (below : i < g.radices.prod) :
    (g.pointAt i).size = g.axes.length := by
  have names := congrArg List.length (names_choose (digits_fit below))
  rw [List.length_map, List.length_map, ← entries_pointAt ascending below] at names
  exact names

theorem compare_pointAt_of_lt (ascending : g.Ascending) (less : i < j) (below : j < g.radices.prod) :
    compare (g.pointAt i) (g.pointAt j) = .lt := by
  have below' := Nat.lt_trans less below
  have sizes : compare (g.pointAt i).size (g.pointAt j).size = .eq := by
    rw [size_pointAt ascending below', size_pointAt ascending below]
    exact Std.ReflCmp.compare_self
  rw [compare_eq_then, sizes, entries_pointAt ascending below', entries_pointAt ascending below]
  exact firstDifference_choose ascending.values (digits_fit below') (digits_fit below) (digits_lt less below)

theorem lt_iff_compare_pointAt (ascending : g.Ascending) (below : i < g.radices.prod)
    (below' : j < g.radices.prod) : i < j ↔ compare (g.pointAt i) (g.pointAt j) = .lt := by
  refine ⟨fun less => compare_pointAt_of_lt ascending less below', fun less => ?_⟩
  rcases Nat.lt_trichotomy i j with smaller | rfl | greater
  · exact smaller
  · cases less.symm.trans Std.ReflCmp.compare_self
  · rw [compare_swap, compare_pointAt_of_lt ascending greater below] at less
    cases less

end Ascending

/-- If the names of a grid and the values of each axis ascend by their bytes, indexes below the count are in the
order of their points. So the points of a walk are sorted as they come, and none stands twice. -/
theorem index_order_iff {g : Grid} {n : Nat} (counted : g.count? = some n)
    (names : g.names.Pairwise fun k l => Text.utf8 k < Text.utf8 l)
    (values : ∀ a ∈ g.axes, a.values.Pairwise fun v w => Text.utf8 v < Text.utf8 w) :
    (∀ i j, i < n → j < n → ∃ p q, g.point i = .ok p ∧ g.point j = .ok q ∧ (i < j ↔ compare p q = .lt)) ∧
      ∃ points : List Point, g.points = .ok points ∧ points.length = n ∧
        (points.Pairwise fun p q => compare p q = .lt) ∧ points.Nodup ∧ sort points = points := by
  have ascending : g.Ascending := by
    constructor
    · exact names.imp Text.compare_eq_lt_iff.mpr
    · intro a member
      exact (values a member).imp Text.compare_eq_lt_iff.mpr
  obtain ⟨-, rfl⟩ := count?_eq_some_iff.mp counted
  constructor
  · intro i j below below'
    refine ⟨_, _, point_of_lt counted below, point_of_lt counted below', ?_⟩
    exact lt_iff_compare_pointAt ascending below below'
  · have sorted : ((List.range g.radices.prod).map g.pointAt).Pairwise fun p q => compare p q = .lt := by
      rw [List.pairwise_map]
      refine List.pairwise_lt_range.imp_of_mem fun {i j} _ hj less => ?_
      exact compare_pointAt_of_lt ascending less (List.mem_range.mp hj)
    refine ⟨_, points_eq counted, by simp, sorted, nodup_points (Nat.le_of_lt (count?_lt counted)), ?_⟩
    refine (eq_sort (.refl _) (sorted.imp fun less => ?_)).symm
    rw [less]
    rfl

theorem index_order_iff_alphabetical :
    alphabetical.count? = some 6 ∧
      (alphabetical.names.Pairwise fun k l => Text.utf8 k < Text.utf8 l) ∧
      (∀ a ∈ alphabetical.axes, a.values.Pairwise fun v w => Text.utf8 v < Text.utf8 w) ∧
      ∃ p q, alphabetical.point 1 = .ok p ∧ alphabetical.point 2 = .ok q ∧ compare p q = .lt := by
  have counted : alphabetical.count? = some 6 := by decide
  have names : alphabetical.names.Pairwise fun k l => Text.utf8 k < Text.utf8 l := by decide
  have values : ∀ a ∈ alphabetical.axes, a.values.Pairwise fun v w => Text.utf8 v < Text.utf8 w := by decide
  obtain ⟨p, q, first, second, order⟩ := (index_order_iff counted names values).1 1 2 (by decide) (by decide)
  exact ⟨counted, names, values, p, q, first, second, order.mp (by decide)⟩

end Grid

end AxisGrid
