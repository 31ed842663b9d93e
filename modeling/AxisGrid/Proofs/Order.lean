import AxisGrid.Point.Order
import Mathlib.Data.Finset.Card

/-! Points are in a total order in which none but a point itself is equal to it. Sizes are compared first, so
the entries that are compared in pairs are of one number and none is left over. Hence a row of points has one
sorted form, and the points in it are as many as the steps up in that form. -/
namespace AxisGrid.Point

/-- How the first two entries differ that stand in one place and are not the same. -/
def firstDifference (es fs : List (String × String)) : Ordering :=
  (((es.zip fs).map fun e => compareEntries e.1 e.2).find? (· ≠ .eq)).getD .eq

def ascents (points : List Point) : Nat :=
  (points.zip points.tail).countP fun e => compare e.1 e.2 = .lt

section Compare

variable {p q r : Point}

theorem firstDifference_cons (e f : String × String) (es fs : List (String × String)) :
    firstDifference (e :: es) (f :: fs) = (compareEntries e f).then (firstDifference es fs) := by
  simp only [firstDifference, List.zip_cons_cons, List.map_cons, List.find?_cons]
  cases compareEntries e f <;> rfl

theorem compareLex_eq_firstDifference {es fs : List (String × String)} (same : es.length = fs.length) :
    List.compareLex compareEntries es fs = firstDifference es fs := by
  induction es generalizing fs with
  | nil =>
    cases fs with
    | nil => rfl
    | cons f fs => cases same
  | cons e es ih =>
    cases fs with
    | nil => cases same
    | cons f fs =>
      rw [List.compareLex_cons_cons, ih (Nat.succ.inj same), firstDifference_cons]

theorem compare_eq_then (p q : Point) :
    compare p q = (compare p.size q.size).then (firstDifference p.entries q.entries) := by
  have sizes : compare p q
      = (compare p.size q.size).then (List.compareLex compareEntries p.entries q.entries) := rfl
  rw [sizes]
  cases order : compare p.size q.size with
  | eq => exact compareLex_eq_firstDifference (Nat.compare_eq_eq.mp order)
  | _ => rfl

theorem compare_of_size_lt (less : p.size < q.size) : compare p q = .lt := by
  rw [compare_eq_then, Nat.compare_eq_lt.mpr less]
  rfl

theorem compare_swap (p q : Point) : compare q p = (compare p q).swap := Std.OrientedCmp.eq_swap

theorem eq_of_isLE (first : (compare p q).isLE) (back : (compare q p).isLE) : p = q := by
  rw [compare_swap p q] at back
  cases order : compare p q with
  | eq => exact Std.LawfulEqCmp.eq_of_compare order
  | lt =>
    rw [order] at back
    cases back
  | gt =>
    rw [order] at first
    cases first

end Compare

section Sorted

variable {points sorted : List Point}

theorem perm_sort (points : List Point) : (sort points).Perm points := List.mergeSort_perm _ _

theorem ordered_sort (points : List Point) : (sort points).Pairwise fun p q => (compare p q).isLE := by
  refine List.pairwise_mergeSort (fun p q r => Std.TransCmp.isLE_trans) (fun p q => ?_) points
  rw [compare_swap p q]
  cases compare p q <;> rfl

theorem eq_sort (perm : sorted.Perm points) (ordered : sorted.Pairwise fun p q => (compare p q).isLE) :
    sorted = sort points := by
  refine List.Perm.eq_of_pairwise ?_ ordered (ordered_sort points) (perm.trans (perm_sort points).symm)
  intro p q _ _ first back
  exact eq_of_isLE first back

end Sorted

section Count

theorem distinctCount_eq_card (points : List Point) : distinctCount points = points.toFinset.card := by
  match points with
  | [] => rfl
  | p :: points =>
    -- the copies of the first point are dropped before the rest is counted, so the recursion is on the length
    have rest := distinctCount_eq_card (points.filter fun q => !q == p)
    have new : p ∉ (points.filter fun q => !q == p).toFinset := by simp
    have all : (p :: points).toFinset = insert p (points.filter fun q => !q == p).toFinset := by
      ext q
      by_cases same : q = p <;> simp [same]
    rw [all, Finset.card_insert_of_notMem new, ← rest, distinctCount, List.eraseDups_cons]
    rfl
termination_by points.length
decreasing_by exact Nat.lt_succ_of_le (List.length_filter_le _ _)

theorem ascents_cons_cons (p q : Point) (points : List Point) :
    ascents (p :: q :: points) = ascents (q :: points) + if compare p q = .lt then 1 else 0 := by
  simp [ascents, List.countP_cons]

theorem card_of_ordered {p : Point} {points : List Point}
    (ordered : (p :: points).Pairwise fun p q => (compare p q).isLE) :
    (p :: points).toFinset.card = ascents (p :: points) + 1 := by
  induction points generalizing p with
  | nil => rfl
  | cons q points ih =>
    obtain ⟨above, tail⟩ := List.pairwise_cons.mp ordered
    rw [ascents_cons_cons, List.toFinset_cons]
    cases order : compare p q with
    | lt =>
      have new : p ∉ (q :: points).toFinset := by
        rw [List.mem_toFinset]
        intro member
        -- all that is left is from `q` up, and `p` is below `q`
        have back : (compare q p).isLE := by
          rcases List.mem_cons.mp member with rfl | later
          · simp
          · exact (List.pairwise_cons.mp tail).1 p later
        rw [compare_swap p q, order] at back
        cases back
      rw [Finset.card_insert_of_notMem new, ih tail]
      rfl
    | eq =>
      cases Std.LawfulEqCmp.eq_of_compare order
      rw [Finset.insert_eq_of_mem (by simp), ih tail]
      rfl
    | gt =>
      have first := above q List.mem_cons_self
      rw [order] at first
      cases first

theorem distinctCount_eq_ascents (points : List Point) :
    distinctCount points = if points = [] then 0 else ascents (sort points) + 1 := by
  have perm := perm_sort points
  have ordered := ordered_sort points
  rw [distinctCount_eq_card, ← List.toFinset_eq_of_perm _ _ perm]
  cases sorted : sort points with
  | nil =>
    rw [sorted] at perm
    rw [if_pos perm.nil_eq.symm]
    rfl
  | cons p rest =>
    rw [sorted] at perm ordered
    have some : points ≠ [] := by
      rintro rfl
      exact absurd perm.eq_nil (List.cons_ne_nil p rest)
    rw [if_neg some, card_of_ordered ordered]

end Count

/-- The order is by size and then by the first difference among the entries in pairs. It is total and strict,
and equal points are the same. So however points are put in order the result is one row, whatever the order
in which they came, and the different points are counted by its steps up. -/
theorem order_total :
    (∀ p q : Point,
      compare p q = (compare p.size q.size).then (firstDifference p.entries q.entries) ∧
        (compare p q = .eq ↔ p = q) ∧ compare q p = (compare p q).swap ∧
        (p.size < q.size → compare p q = .lt) ∧
        ∀ r, compare p q = .lt → compare q r = .lt → compare p r = .lt) ∧
    ∀ points : List Point,
      (sort points).Perm points ∧ ((sort points).Pairwise fun p q => (compare p q).isLE) ∧
        (∀ sorted : List Point, sorted.Perm points → (sorted.Pairwise fun p q => (compare p q).isLE) →
          sorted = sort points) ∧
        (∀ others : List Point, others.Perm points → sort others = sort points) ∧
        distinctCount points = points.toFinset.card ∧
        distinctCount points = if points = [] then 0 else ascents (sort points) + 1 := by
  constructor
  · intro p q
    exact ⟨compare_eq_then p q, Std.LawfulEqCmp.compare_eq_iff_eq, compare_swap p q, compare_of_size_lt,
      fun r => Std.TransCmp.lt_trans⟩
  · intro points
    refine ⟨perm_sort points, ordered_sort points, fun sorted => eq_sort, fun others perm => ?_,
      distinctCount_eq_card points, distinctCount_eq_ascents points⟩
    exact eq_sort ((perm_sort others).trans perm) (ordered_sort others)

theorem order_total_mixed :
    compare (ofPairs [("a", "9")]) (ofPairs [("b", "1")]) = .lt ∧
      compare (ofPairs [("b", "1")]) (ofPairs [("a", "1"), ("b", "0")]) = .lt ∧
      compare (ofPairs [("a", "9")]) (ofPairs [("a", "1"), ("b", "0")]) = .lt ∧
      sort [ofPairs [("b", "1")], ofPairs [("a", "9")], empty, ofPairs [("b", "1")]]
        = [empty, ofPairs [("a", "9")], ofPairs [("b", "1")], ofPairs [("b", "1")]] ∧
      ascents (sort [ofPairs [("b", "1")], ofPairs [("a", "9")], empty, ofPairs [("b", "1")]]) + 1 = 3 := by
  obtain ⟨pairs, rows⟩ := order_total
  obtain ⟨-, -, one, -, -, steps⟩ :=
    rows [ofPairs [("b", "1")], ofPairs [("a", "9")], empty, ofPairs [("b", "1")]]
  have names : compare (ofPairs [("a", "9")]) (ofPairs [("b", "1")]) = .lt := by decide
  have sizes : compare (ofPairs [("b", "1")]) (ofPairs [("a", "1"), ("b", "0")]) = .lt := by decide
  refine ⟨names, sizes, (pairs _ _).2.2.2.2 _ names sizes, (one _ ?_ ?_).symm, steps.symm.trans ?_⟩
  · decide
  · decide
  · decide

end AxisGrid.Point
