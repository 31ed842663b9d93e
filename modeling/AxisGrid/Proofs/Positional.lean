import AxisGrid.Proofs.Identifier
import AxisGrid.Proofs.Index

/-! Values go into a point by the order of the axes and come out of it in that order, although a point keeps its
entries by name. A name has one place in the grid, so no value is put over another, and the values for the axes
are all there is in a point that has their names and no others. -/
namespace AxisGrid

theorem Table.map_get?_ofList_zip {α β : Type} [Ord α] [Std.TransOrd α] [Std.LawfulEqOrd α] {keys : List α}
    {values : List β} (distinct : keys.Nodup) (lengths : keys.length = values.length) :
    keys.map (ofList (keys.zip values)).get? = values.map some := by
  have first : ((keys.zip values).map (·.1)).Nodup := by
    rw [List.map_fst_zip (Nat.le_of_eq lengths)]
    exact distinct
  apply List.ext_getElem
  · rw [List.length_map, List.length_map, lengths]
  · intro i inside inside'
    rw [List.length_map] at inside inside'
    have member : (keys[i], values[i]) ∈ keys.zip values := by
      have pair : i < (keys.zip values).length := by simp [inside, inside']
      rw [← List.getElem_zip (h := pair)]
      exact List.getElem_mem pair
    rw [List.getElem_map, List.getElem_map, get?_ofList]
    exact (last?_eq_some_iff_mem first).mpr member

namespace Point

variable {g : Grid} {p : Point} {vs : List String}

theorem values_eq_map_names (p : Point) (g : Grid) : p.values g.axes = g.names.map p.get? := by
  rw [values, Grid.names, List.map_map]
  rfl

theorem get?_eq_none_of_not_mem {name : String} (names : ∀ name, name ∈ p.names ↔ name ∈ g.names)
    (absent : name ∉ g.names) : p.get? name = none := by
  by_contra bound
  exact absent ((names name).mp (mem_names_iff_get?.mpr bound))

theorem ext_values {q : Point} (hp : ∀ name, name ∈ p.names ↔ name ∈ g.names)
    (hq : ∀ name, name ∈ q.names ↔ name ∈ g.names) (same : p.values g.axes = q.values g.axes) : p = q := by
  rw [values_eq_map_names, values_eq_map_names, List.map_inj_left] at same
  apply ext_get?
  intro name
  by_cases named : name ∈ g.names
  · exact same name named
  · rw [get?_eq_none_of_not_mem hp named, get?_eq_none_of_not_mem hq named]

section Zip

variable (lengths : vs.length = g.axes.length)

include lengths

theorem length_names_eq : g.names.length = vs.length := by
  rw [Grid.names, List.length_map, lengths]

theorem mem_names_zip {name : String} : name ∈ (ofPairs (g.names.zip vs)).names ↔ name ∈ g.names := by
  rw [mem_names_ofPairs, List.map_fst_zip (Nat.le_of_eq (length_names_eq lengths))]

theorem values_zip : (ofPairs (g.names.zip vs)).values g.axes = vs.map some := by
  rw [values_eq_map_names]
  exact Table.map_get?_ofList_zip g.nodup_names (length_names_eq lengths)

end Zip

theorem ofValues_eq_ok_iff :
    ofValues g vs = .ok p ↔ (∀ name, name ∈ p.names ↔ name ∈ g.names) ∧ p.values g.axes = vs.map some := by
  constructor
  · intro made
    unfold ofValues at made
    split at made
    · rename_i lengths
      cases made
      exact ⟨fun name => mem_names_zip lengths, values_zip lengths⟩
    · cases made
  · rintro ⟨names, given⟩
    have lengths : vs.length = g.axes.length := by
      have counted := congrArg List.length given
      rw [values, List.length_map, List.length_map] at counted
      exact counted.symm
    have same : ofPairs (g.names.zip vs) = p :=
      ext_values (fun name => mem_names_zip lengths) names ((values_zip lengths).trans given.symm)
    rw [ofValues, if_pos lengths, same]

theorem ofValues_eq_error_iff {e : PointError} :
    ofValues g vs = .error e ↔
      vs.length ≠ g.axes.length ∧ e = .valueCountMismatch g.axes.length vs.length := by
  by_cases lengths : vs.length = g.axes.length
  · simp [ofValues, lengths]
  · simp [ofValues, lengths, eq_comm]

theorem exists_ofValues_iff : (∃ p, ofValues g vs = .ok p) ↔ vs.length = g.axes.length := by
  by_cases lengths : vs.length = g.axes.length
  · simp [ofValues, lengths]
  · simp [ofValues, lengths]

theorem names_perm_of_ofValues (made : ofValues g vs = .ok p) : p.names.Perm g.names :=
  (List.perm_ext_iff_of_nodup p.table.nodup_keys g.nodup_names).mpr (ofValues_eq_ok_iff.mp made).1

theorem exists_values (names : ∀ name, name ∈ p.names ↔ name ∈ g.names) :
    ∃ vs : List String, p.values g.axes = vs.map some := by
  -- every name is bound, so the empty text stands nowhere
  refine ⟨g.names.map fun name => (p.get? name).getD "", ?_⟩
  rw [values_eq_map_names, List.map_map, List.map_inj_left]
  intro name named
  obtain ⟨value, bound⟩ := Option.ne_none_iff_exists'.mp (mem_names_iff_get?.mp ((names name).mpr named))
  simp [bound]

/-- As many values as there are axes make a point, and no other number does. It has an entry for each name of the
grid, ascending by name, and gives the values back in the order of the axes; and a point that has these names is
made again of the values that it gives. -/
theorem ofValues_values_inverse (g : Grid) :
    (∀ vs, (∃ p, ofValues g vs = .ok p) ↔ vs.length = g.axes.length) ∧
    (∀ vs e, ofValues g vs = .error e ↔
      vs.length ≠ g.axes.length ∧ e = .valueCountMismatch g.axes.length vs.length) ∧
    (∀ vs p, ofValues g vs = .ok p →
      p.names.Perm g.names ∧ p.size = g.axes.length ∧ Ascending p.entries ∧ p.values g.axes = vs.map some) ∧
    ∀ p, (∀ name, name ∈ p.names ↔ name ∈ g.names) →
      ∃ vs, p.values g.axes = vs.map some ∧ ofValues g vs = .ok p := by
  refine ⟨fun vs => exists_ofValues_iff, fun vs e => ofValues_eq_error_iff, fun vs p made => ?_, fun p names => ?_⟩
  · have perm := names_perm_of_ofValues made
    have size : p.size = g.axes.length := by
      have counted := perm.length_eq
      rw [names, Table.keys, Grid.names, List.length_map, List.length_map] at counted
      exact counted
    exact ⟨perm, size, p.ascending_entries, (ofValues_eq_ok_iff.mp made).2⟩
  · obtain ⟨vs, given⟩ := exists_values names
    exact ⟨vs, given, ofValues_eq_ok_iff.mpr ⟨names, given⟩⟩

theorem ofValues_values_inverse_crossed :
    ofValues .crossed ["1", "c"] = .ok (ofPairs [("x", "c"), ("y", "1")]) ∧
      (ofPairs [("x", "c"), ("y", "1")]).values Grid.crossed.axes = [some "1", some "c"] ∧
      (∀ name, name ∈ (ofPairs [("x", "c"), ("y", "1")]).names ↔ name ∈ Grid.crossed.names) ∧
      ∃ vs, (ofPairs [("x", "c"), ("y", "1")]).values Grid.crossed.axes = vs.map some ∧
        ofValues .crossed vs = .ok (ofPairs [("x", "c"), ("y", "1")]) := by
  obtain ⟨-, -, forth, back⟩ := ofValues_values_inverse .crossed
  have made : ofValues .crossed ["1", "c"] = .ok (ofPairs [("x", "c"), ("y", "1")]) := rfl
  obtain ⟨perm, -, -, given⟩ := forth _ _ made
  have names : ∀ name, name ∈ (ofPairs [("x", "c"), ("y", "1")]).names ↔ name ∈ Grid.crossed.names :=
    fun name => perm.mem_iff
  exact ⟨made, given, names, back _ names⟩

end Point

end AxisGrid
