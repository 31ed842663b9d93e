import AxisGrid.Point.Label
import AxisGrid.Proofs.Identifier
import AxisGrid.Proofs.Index
import Mathlib.Data.Finset.Card

/-! The compact label writes a value bare unless two axes of the grid declare it, whatever name it stands
under. A bare value that is declared at all is therefore declared by one axis, and any other has its name in
front of it: where no separator occurs in the grid, the label tells which entries it was written from, also
among points that bind different axes. -/
namespace AxisGrid

namespace Grid

def Shared (g : Grid) (value : String) : Prop :=
  ∃ a ∈ g.axes, ∃ b ∈ g.axes, a ≠ b ∧ value ∈ a.values ∧ value ∈ b.values

instance (g : Grid) (value : String) : Decidable (g.Shared value) :=
  inferInstanceAs (Decidable (∃ a ∈ g.axes, ∃ b ∈ g.axes, a ≠ b ∧ value ∈ a.values ∧ value ∈ b.values))

/-- No axis has a value twice, so a value is counted once for each axis that declares it. -/
theorem count_values (axes : List Axis) (value : String) :
    (axes.flatMap (·.values)).count value = axes.countP (value ∈ ·.values) := by
  induction axes with
  | nil => rfl
  | cons a axes ih =>
    rw [List.flatMap_cons, List.count_append, List.countP_cons, ih, a.nodup_values.count, Nat.add_comm]
    simp only [decide_eq_true_eq]

theorem one_lt_count_iff (g : Grid) (value : String) :
    1 < (g.axes.flatMap (·.values)).count value ↔ g.Shared value := by
  have distinct : (g.axes.filter (value ∈ ·.values)).Nodup := (List.Nodup.of_map _ g.nodup_names).filter _
  rw [count_values, List.countP_eq_length_filter, ← List.toFinset_card_of_nodup distinct, Finset.one_lt_card]
  simp only [List.mem_toFinset, List.mem_filter, decide_eq_true_eq, Shared]
  constructor
  · rintro ⟨a, ⟨ha, first⟩, b, ⟨hb, second⟩, apart⟩
    exact ⟨a, ha, b, hb, apart, first, second⟩
  · rintro ⟨a, ha, b, hb, apart, first, second⟩
    exact ⟨a, ⟨ha, first⟩, b, ⟨hb, second⟩, apart⟩

theorem name_eq_of_not_shared {g : Grid} {d e : String × String} (hd : g.Declares d) (he : g.Declares e)
    (same : d.2 = e.2) (own : ¬ g.Shared e.2) : d.1 = e.1 := by
  obtain ⟨a, ha, named, first⟩ := hd
  obtain ⟨b, hb, named', second⟩ := he
  by_contra other
  have apart : a ≠ b := by
    rintro rfl
    exact other (named.symm.trans named')
  exact own ⟨a, ha, b, hb, apart, same ▸ first, second⟩

end Grid

namespace Point

variable {g : Grid} {p q : Point}

section Tokens

variable {d e : String × String}

theorem compactToken_of_shared (shared : g.Shared e.2) : compactToken g e = writeEntry '=' e :=
  if_pos ((g.one_lt_count_iff e.2).mpr shared)

theorem compactToken_of_not_shared (own : ¬ g.Shared e.2) : compactToken g e = e.2.toList :=
  if_neg (mt (g.one_lt_count_iff e.2).mp own)

theorem ofList_compactToken (g : Grid) (e : String × String) :
    String.ofList (compactToken g e) = if g.Shared e.2 then e.1 ++ "=" ++ e.2 else e.2 := by
  by_cases shared : g.Shared e.2
  · rw [compactToken_of_shared shared, if_pos shared, ← String.toList_inj]
    simp [writeEntry]
  · rw [compactToken_of_not_shared shared, if_neg shared, String.ofList_toList]

structure Plain (e : String × String) : Prop where
  name : ',' ∉ e.1.toList ∧ '=' ∉ e.1.toList
  value : ',' ∉ e.2.toList ∧ '=' ∉ e.2.toList

theorem plain_of_declares (names : ∀ name ∈ g.names, ',' ∉ name.toList ∧ '=' ∉ name.toList)
    (values : ∀ a ∈ g.axes, ∀ value ∈ a.values, ',' ∉ value.toList ∧ '=' ∉ value.toList)
    (declared : g.Declares e) : Plain e := by
  obtain ⟨a, ha, named, member⟩ := declared
  constructor
  · exact named ▸ names a.name (List.mem_map_of_mem ha)
  · exact values a ha e.2 member

theorem comma_not_mem_compactToken (plain : Plain e) : ',' ∉ compactToken g e := by
  by_cases shared : g.Shared e.2
  · simp [compactToken_of_shared shared, writeEntry, plain.name, plain.value]
  · simp [compactToken_of_not_shared shared, plain.value]

theorem mem_compactToken_iff (plain : Plain e) : '=' ∈ compactToken g e ↔ g.Shared e.2 := by
  by_cases shared : g.Shared e.2
  · simp [compactToken_of_shared shared, writeEntry, shared]
  · simp [compactToken_of_not_shared shared, plain.value, shared]

theorem compactToken_inj (hd : g.Declares d) (he : g.Declares e) (plain_d : Plain d) (plain_e : Plain e)
    (same : compactToken g d = compactToken g e) : d = e := by
  have alike : g.Shared d.2 ↔ g.Shared e.2 := by
    rw [← mem_compactToken_iff plain_d, same, mem_compactToken_iff plain_e]
  by_cases shared : g.Shared e.2
  · rw [compactToken_of_shared (alike.mpr shared), compactToken_of_shared shared] at same
    exact writeEntry_inj plain_d.name.2 plain_e.name.2 same
  · rw [compactToken_of_not_shared (mt alike.mp shared), compactToken_of_not_shared shared] at same
    have value : d.2 = e.2 := String.toList_inj.mp same
    exact Prod.ext (Grid.name_eq_of_not_shared hd he value shared) value

theorem map_compactToken_inj {ds es : List (String × String)} (hd : ∀ d ∈ ds, g.Declares d ∧ Plain d)
    (he : ∀ e ∈ es, g.Declares e ∧ Plain e) (same : ds.map (compactToken g) = es.map (compactToken g)) :
    ds = es := by
  induction ds generalizing es with
  | nil => exact (List.map_eq_nil_iff.mp same.symm).symm
  | cons d ds ih =>
    cases es with
    | nil => cases same
    | cons e es =>
      obtain ⟨head, tail⟩ := List.cons.inj same
      obtain ⟨⟨declared_d, plain_d⟩, hd⟩ := List.forall_mem_cons.mp hd
      obtain ⟨⟨declared_e, plain_e⟩, he⟩ := List.forall_mem_cons.mp he
      rw [compactToken_inj declared_d declared_e plain_d plain_e head, ih hd he tail]

end Tokens

theorem toList_compactLabel (some : p.entries ≠ []) (g : Grid) :
    (p.compactLabel g).toList = [','].intercalate (p.entries.map (compactToken g)) := by
  rw [compactLabel, if_neg (mt isEmpty_iff.mp some), String.toList_ofList]

theorem splitOn_compactLabel (some : p.entries ≠ []) (plain : ∀ e ∈ p.entries, Plain e) :
    (p.compactLabel g).toList.splitOn ',' = p.entries.map (compactToken g) := by
  rw [toList_compactLabel some]
  refine List.splitOn_intercalate _ (fun token member => ?_) (by simpa using some)
  obtain ⟨e, he, rfl⟩ := List.mem_map.mp member
  exact comma_not_mem_compactToken (plain e he)

/-- The label of a point has one token for each entry, ascending by the bytes of the names. A token is the name
and the value if two axes of the grid declare the value, and the bare value otherwise. -/
theorem compactLabel_eq_intercalate (g : Grid) (p : Point) (some : p ≠ empty) :
    p.compactLabel g
        = ",".intercalate (p.entries.map fun e => if g.Shared e.2 then e.1 ++ "=" ++ e.2 else e.2) ∧
      p.entries.Pairwise fun d e => Text.utf8 d.1 < Text.utf8 e.1 := by
  constructor
  · rw [← String.toList_inj, toList_compactLabel (entries_ne_nil some), String.toList_intercalate,
      List.map_map]
    congr 1
    refine List.map_congr_left fun e _ => ?_
    rw [Function.comp_apply, ← ofList_compactToken, String.toList_ofList]
  · exact p.table.ascending.imp Text.compare_eq_lt_iff.mp

/-- Names that are on no axis and values that are on none follow the same rule as all others. -/
theorem compactLabel_eq_intercalate_strange :
    ofPairs [("z", "B"), ("y", "C"), ("x", "B"), ("w", "Q")] ≠ empty ∧
      (ofPairs [("z", "B"), ("y", "C"), ("x", "B"), ("w", "Q")]).compactLabel Grid.overlapping
        = "Q,x=B,C,z=B" := by
  have some : ofPairs [("z", "B"), ("y", "C"), ("x", "B"), ("w", "Q")] ≠ empty := by decide
  refine ⟨some, ?_⟩
  rw [(compactLabel_eq_intercalate Grid.overlapping _ some).1]
  decide

/-- Points that bind axes of a grid to values which these declare are told apart by their labels, if no name
and no value of the grid holds a separator. -/
theorem compactLabel_inj_iff (g : Grid) (names : ∀ name ∈ g.names, ',' ∉ name.toList ∧ '=' ∉ name.toList)
    (values : ∀ a ∈ g.axes, ∀ value ∈ a.values, ',' ∉ value.toList ∧ '=' ∉ value.toList)
    (p q : Point) (some_p : p ≠ empty) (some_q : q ≠ empty) (declared_p : ∀ e ∈ p.entries, g.Declares e)
    (declared_q : ∀ e ∈ q.entries, g.Declares e) : p.compactLabel g = q.compactLabel g ↔ p = q := by
  have plain {e : String × String} : g.Declares e → Plain e := plain_of_declares names values
  constructor
  · intro same
    -- no token holds a comma, so equal labels are cut into equal rows of tokens
    have tokens : p.entries.map (compactToken g) = q.entries.map (compactToken g) := by
      rw [← splitOn_compactLabel (entries_ne_nil some_p) fun e he => plain (declared_p e he), same,
        splitOn_compactLabel (entries_ne_nil some_q) fun e he => plain (declared_q e he)]
    apply ext_entries
    exact map_compactToken_inj (fun e he => ⟨declared_p e he, plain (declared_p e he)⟩)
      (fun e he => ⟨declared_q e he, plain (declared_q e he)⟩) tokens
  · rintro rfl
    rfl

/-- The common value leaves its axis to the name, and an axis that is left out is missing in the label. -/
theorem compactLabel_inj_iff_overlapping :
    (ofPairs [("x", "B")]).compactLabel Grid.overlapping ≠ (ofPairs [("y", "B")]).compactLabel Grid.overlapping ∧
      (ofPairs [("x", "A"), ("y", "B")]).compactLabel Grid.overlapping
        ≠ (ofPairs [("y", "B")]).compactLabel Grid.overlapping := by
  have told (p q : Point) := compactLabel_inj_iff Grid.overlapping (by decide) (by decide) p q
  constructor
  · exact mt (told _ _ (by decide) (by decide) (by decide) (by decide)).mp (by decide)
  · exact mt (told _ _ (by decide) (by decide) (by decide) (by decide)).mp (by decide)

end Point

end AxisGrid
