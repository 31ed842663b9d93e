import AxisGrid.Proofs.Product
import AxisGrid.Proofs.Same
import Mathlib.Logic.Equiv.Defs
import Mathlib.Tactic.Choose

/-! Grids that declare the same axes and values, in whatever order, have the same points. Each numbers
them in its own way: to take a point by its index in one grid and to number it in the other is a
permutation of the indexes, and the way back undoes it. -/
namespace AxisGrid

namespace Grid

variable {g h : Grid}

def radixOf (g : Grid) (name : String) : Nat := (g.find? name).elim 0 Axis.size

theorem radixOf_name {a : Axis} (member : a ∈ g.axes) : g.radixOf a.name = a.size := by
  rw [radixOf, find?_name member, Option.elim_some]

theorem radices_eq_map (g : Grid) : g.radices = g.names.map g.radixOf := by
  rw [radices, names, List.map_map]
  exact List.map_congr_left fun a member => (radixOf_name member).symm

theorem Alike.symm {as bs : List Axis} (alike : Alike as bs) : Alike bs as := by
  intro b hb a ha names value
  exact (alike a ha b hb names.symm value).symm

theorem names_perm (names : ∀ name, name ∈ g.names ↔ name ∈ h.names) : g.names.Perm h.names :=
  (List.perm_ext_iff_of_nodup g.nodup_names h.nodup_names).mpr names

section Rearranged

variable (names : ∀ name, name ∈ g.names ↔ name ∈ h.names) (alike : Alike g.axes h.axes)

include names alike

theorem radixOf_eq {name : String} (named : name ∈ g.names) : g.radixOf name = h.radixOf name := by
  obtain ⟨a, ha, rfl⟩ := List.mem_map.mp named
  obtain ⟨b, hb, same, members⟩ := exists_counterpart (fun name => (names name).mp) alike ha
  rw [radixOf_name ha, ← same, radixOf_name hb]
  exact Axis.size_eq members

theorem radices_perm : g.radices.Perm h.radices := by
  have agree : g.names.map g.radixOf = g.names.map h.radixOf :=
    List.map_congr_left fun name named => radixOf_eq names alike named
  rw [radices_eq_map, radices_eq_map, agree]
  exact (names_perm names).map _

theorem over_of_alike {p : Point} (on_grid : p.Over g) : p.Over h := by
  refine ⟨fun name => (on_grid.names name).trans (names name), fun b hb => ?_⟩
  obtain ⟨a, ha, same, members⟩ := exists_counterpart (fun name => (names name).mpr) alike.symm hb
  obtain ⟨value, member, bound⟩ := on_grid.declared a ha
  exact ⟨value, (members value).mpr member, same ▸ bound⟩

theorem over_iff_of_alike {p : Point} : p.Over g ↔ p.Over h :=
  ⟨over_of_alike names alike, over_of_alike (fun name => (names name).symm) alike.symm⟩

theorem points_perm (limit : g.radices.prod ≤ Word.bound) :
    ((List.range g.radices.prod).map g.pointAt).Perm ((List.range h.radices.prod).map h.pointAt) := by
  have limit' : h.radices.prod ≤ Word.bound := (radices_perm names alike).prod_eq ▸ limit
  refine (List.perm_ext_iff_of_nodup (nodup_points limit) (nodup_points limit')).mpr fun p => ?_
  rw [mem_points_iff limit, mem_points_iff limit', over_iff_of_alike names alike]

end Rearranged

/-- Takes a point by its index in one grid and numbers it in another. -/
def reindex (g h : Grid) (i : Nat) : Except PointError Nat := (g.point i).bind h.index

theorem reindex_of_lt {n i : Nat} (counted : g.count? = some n) (below : i < n) :
    reindex g h i = h.index (g.pointAt i) := by
  rw [reindex, point_of_lt counted below]
  rfl

section Counted

variable {n i j : Nat} (names : ∀ name, name ∈ g.names ↔ name ∈ h.names) (alike : Alike g.axes h.axes)
  (counted : g.count? = some n) (below : i < n)

include names alike counted below

theorem over_pointAt_of_alike : (g.pointAt i).Over h := by
  obtain ⟨-, rfl⟩ := count?_eq_some_iff.mp counted
  exact over_of_alike names alike (over_pointAt below)

theorem pointAt_of_reindex (sent : reindex g h i = .ok j) : h.pointAt j = g.pointAt i := by
  rw [reindex_of_lt counted below] at sent
  rw [(pointAt_index sent).2, Point.restrict_of_over (over_pointAt_of_alike names alike counted below)]

theorem exists_reindex (counted' : h.count? = some n) :
    ∃ j, j < n ∧ reindex g h i = .ok j ∧ reindex h g j = .ok i := by
  have small := count?_lt counted
  obtain ⟨-, total⟩ := count?_eq_some_iff.mp counted
  obtain ⟨-, total'⟩ := count?_eq_some_iff.mp counted'
  have on_other := over_pointAt_of_alike names alike counted below
  obtain ⟨j, below', numbered, same⟩ := exists_pointAt (total' ▸ Nat.le_of_lt small) on_other
  rw [← total'] at below'
  refine ⟨j, below', ?_, ?_⟩
  · rw [reindex_of_lt counted below, numbered]
  · rw [reindex_of_lt counted' below', same]
    exact index_pointAt (total ▸ below) (Nat.lt_trans below small)

end Counted

theorem exists_perm {ε : Type} {n : Nat} {out back : Nat → Except ε Nat}
    (there : ∀ i, i < n → ∃ j, j < n ∧ out i = .ok j ∧ back j = .ok i)
    (again : ∀ j, j < n → ∃ i, i < n ∧ back j = .ok i ∧ out i = .ok j) :
    ∃ σ : Equiv.Perm (Fin n), (∀ i : Fin n, out i = .ok (σ i).val) ∧
      ∀ j : Fin n, back j = .ok (σ.symm j).val := by
  have forth (i : Fin n) : ∃ j : Fin n, out i = .ok j.val ∧ back j = .ok i.val := by
    obtain ⟨j, below, sent, returned⟩ := there i i.isLt
    exact ⟨⟨j, below⟩, sent, returned⟩
  have onto (j : Fin n) : ∃ i : Fin n, back j = .ok i.val ∧ out i = .ok j.val := by
    obtain ⟨i, below, returned, sent⟩ := again j j.isLt
    exact ⟨⟨i, below⟩, returned, sent⟩
  choose f sent returned using forth
  choose f' returned' sent' using onto
  refine ⟨⟨f, f', fun i => ?_, fun j => ?_⟩, sent, returned'⟩
  · exact Fin.ext (Except.ok.inj ((returned' (f i)).symm.trans (returned i)))
  · exact Fin.ext (Except.ok.inj ((sent (f' j)).symm.trans (sent' j)))

/-- Grids that declare the same axes and values have the same count and the same points. To reindex from
one to the other is a permutation of the indexes, and its inverse is to reindex back. -/
theorem reindex_perm {n m : Nat} (names : ∀ name, name ∈ g.names ↔ name ∈ h.names)
    (alike : Alike g.axes h.axes) (counted : g.count? = some n) (counted' : h.count? = some m) :
    m = n ∧ ∃ σ : Equiv.Perm (Fin n),
      (∀ i : Fin n, reindex g h i = .ok (σ i).val) ∧ (∀ j : Fin n, reindex h g j = .ok (σ.symm j).val) ∧
      ∃ points points' : List Point, g.points = .ok points ∧ h.points = .ok points' ∧
        points.Perm points' ∧ ∀ i : Fin n, points[i.val]? = points'[(σ i).val]? := by
  have total := (count?_eq_some_iff.mp counted).2
  have total' := (count?_eq_some_iff.mp counted').2
  have one : m = n := by rw [total, total', (radices_perm names alike).prod_eq]
  subst one
  obtain ⟨σ, sent, returned⟩ := exists_perm
    (fun i below => exists_reindex names alike counted below counted')
    (fun j below => exists_reindex (fun name => (names name).symm) alike.symm counted' below counted)
  have perm := points_perm names alike (total ▸ Nat.le_of_lt (count?_lt counted))
  rw [← total, ← total'] at perm
  refine ⟨rfl, σ, sent, returned, _, _, points_eq counted, points_eq counted', perm, fun i => ?_⟩
  have same := pointAt_of_reindex names alike counted i.isLt (sent i)
  simp [same]

theorem reindex_crossed :
    (∀ name, name ∈ crossed.names ↔ name ∈ alphabetical.names) ∧ Alike crossed.axes alphabetical.axes ∧
    crossed.count? = some 6 ∧ alphabetical.count? = some 6 ∧
    ∃ σ : Equiv.Perm (Fin 6), (∀ i : Fin 6, reindex crossed alphabetical i = .ok (σ i).val) ∧
      (∀ j : Fin 6, reindex alphabetical crossed j = .ok (σ.symm j).val) ∧ (σ 0).val = 3 := by
  obtain ⟨perm, alike⟩ := same_iff.mp (by decide : crossed.same alphabetical)
  have names : ∀ name, name ∈ crossed.names ↔ name ∈ alphabetical.names := fun name => perm.mem_iff
  have counted : crossed.count? = some 6 := by decide
  have counted' : alphabetical.count? = some 6 := by decide
  obtain ⟨-, σ, out, back, -⟩ := reindex_perm names alike counted counted'
  have first : reindex crossed alphabetical 0 = .ok 3 := by decide
  exact ⟨names, alike, counted, counted', σ, out, back, Except.ok.inj ((out 0).symm.trans first)⟩

end Grid

end AxisGrid
