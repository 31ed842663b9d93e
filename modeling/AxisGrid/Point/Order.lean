import AxisGrid.Point

/-!
The order of points: fewer entries first, then the first entry that differs decides, its name
before its value. It is a total order (`Std.TransOrd`, `Std.LawfulEqOrd`), and texts compare by
their characters.
-/

namespace AxisGrid.Point

def compareEntries : String × String → String × String → Ordering :=
  compareLex (compareOn (·.1)) (compareOn (·.2))

instance : Std.TransCmp compareEntries :=
  inferInstanceAs (Std.TransCmp (compareLex _ _))

instance : Std.LawfulEqCmp compareEntries where
  eq_of_compare {a b} h := by
    have ⟨name, value⟩ := Ordering.then_eq_eq.mp h
    exact Prod.ext (Std.LawfulEqCmp.eq_of_compare name) (Std.LawfulEqCmp.eq_of_compare value)

/-- Compares by size, then entry by entry. -/
instance : Ord Point where
  compare := compareLex (compareOn size) fun p q => List.compareLex compareEntries p.entries q.entries

instance : Std.TransCmp fun p q : Point => List.compareLex compareEntries p.entries q.entries where
  eq_swap := Std.OrientedCmp.eq_swap
  isLE_trans := Std.TransCmp.isLE_trans

instance : Std.TransOrd Point :=
  inferInstanceAs (Std.TransCmp (compareLex _ _))

instance : Std.LawfulEqOrd Point where
  eq_of_compare {p q} h := by
    have ⟨_, entries⟩ := Ordering.then_eq_eq.mp h
    have same : p.entries = q.entries := Std.LawfulEqCmp.eq_of_compare entries
    cases p
    cases q
    exact congrArg Point.mk (Table.ext same)

def sort (points : List Point) : List Point :=
  points.mergeSort fun p q => (compare p q).isLE

def distinctCount (points : List Point) : Nat := points.eraseDups.length

end AxisGrid.Point
