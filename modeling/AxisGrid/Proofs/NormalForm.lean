import AxisGrid.Proofs.Identifier
import AxisGrid.Proofs.Index

/-! A point is the normal form of the pairs that it is made of. What a row of pairs binds is told by the last pair
of each name, and a point holds just that, in the order of the names: so rows that bind the same are one point,
with one identifier and one index, and pairs that come behind a point are laid over it. -/
namespace AxisGrid.Point

/-- A row of pairs gives a name the value of its last pair. -/
def LastBinds (pairs : List (String × String)) (name value : String) : Prop :=
  ∃ before after, pairs = before ++ (name, value) :: after ∧ name ∉ after.map (·.1)

variable {p : Point} {pairs es : List (String × String)} {name value : String}

theorem lastBinds_iff_last? : LastBinds pairs name value ↔ Table.last? name pairs = some value :=
  Table.last?_eq_some_iff.symm

theorem get?_ofPairs_iff : (ofPairs pairs).get? name = some value ↔ LastBinds pairs name value := by
  rw [get?_ofPairs, lastBinds_iff_last?]

/-- There is one row in order that holds what pairs bind, and it is the row of the point made of them. -/
theorem eq_entries_ofPairs_iff :
    es = (ofPairs pairs).entries ↔
      Ascending es ∧ ∀ name value, (name, value) ∈ es ↔ LastBinds pairs name value := by
  constructor
  · rintro rfl
    refine ⟨ascending_entries _, fun name value => ?_⟩
    rw [mem_entries_iff, get?_ofPairs_iff]
  · rintro ⟨ascending, bound⟩
    have own : (ofPairs es).entries = es := Table.entries_ofList (ascending_iff.mp ascending)
    have same : ofPairs es = ofPairs pairs := by
      apply ext_get?
      intro name
      apply Option.ext
      intro value
      rw [← mem_entries_iff, own, bound, get?_ofPairs_iff]
    rw [← same, own]

theorem ofPairs_eq_iff {ps qs : List (String × String)} :
    ofPairs ps = ofPairs qs ↔ ∀ name value, LastBinds ps name value ↔ LastBinds qs name value := by
  simp only [← get?_ofPairs_iff]
  constructor
  · rintro same name value
    rw [same]
  · intro same
    exact ext_get? fun name => Option.ext (same name)

theorem ofPairs_append (p : Point) (pairs : List (String × String)) :
    ofPairs (p.entries ++ pairs) = p.override pairs := by
  rw [ofPairs, Table.ofList_append, entries, Table.ofList_entries, override]

theorem get?_override_iff :
    (p.override pairs).get? name = some value ↔
      LastBinds pairs name value ∨ name ∉ pairs.map (·.1) ∧ p.get? name = some value := by
  rw [get?_override, Option.or_eq_some_iff, Table.last?_eq_none_iff, lastBinds_iff_last?]

/-- Whatever made it, a point has its entries in the order of the bytes of their names. Made of pairs, it holds the
last binding of each name and nothing else, so rows of pairs with the same last bindings are one point and have one
identifier, one fingerprint and one index in every grid. Pairs that are collected behind the entries of a point
override it: what they bind is bound to their last value, and the rest is as it was. -/
theorem normal_form_of_pairs :
    (∀ p : Point, Ascending p.entries) ∧
    (∀ pairs, (∀ name, name ∈ (ofPairs pairs).names ↔ name ∈ pairs.map (·.1)) ∧
      (∀ name value, (ofPairs pairs).get? name = some value ↔ LastBinds pairs name value) ∧
      ∀ es, es = (ofPairs pairs).entries ↔
        Ascending es ∧ ∀ name value, (name, value) ∈ es ↔ LastBinds pairs name value) ∧
    (∀ ps qs, (ofPairs ps = ofPairs qs ↔ ∀ name value, LastBinds ps name value ↔ LastBinds qs name value) ∧
      ((∀ name value, LastBinds ps name value ↔ LastBinds qs name value) →
        (ofPairs ps).identifier = (ofPairs qs).identifier ∧
        (∀ kind, (ofPairs ps).fingerprint kind = (ofPairs qs).fingerprint kind) ∧
        ∀ g : Grid, g.index (ofPairs ps) = g.index (ofPairs qs))) ∧
    ∀ (p : Point) (pairs : List (String × String)), ofPairs (p.entries ++ pairs) = p.override pairs ∧
      ∀ name value, (p.override pairs).get? name = some value ↔
        LastBinds pairs name value ∨ name ∉ pairs.map (·.1) ∧ p.get? name = some value := by
  refine ⟨ascending_entries, fun pairs => ?_, fun ps qs => ⟨ofPairs_eq_iff, fun same => ?_⟩,
    fun p pairs => ⟨ofPairs_append p pairs, fun name value => get?_override_iff⟩⟩
  · exact ⟨fun name => mem_names_ofPairs, fun name value => get?_ofPairs_iff, fun es => eq_entries_ofPairs_iff⟩
  · rw [ofPairs_eq_iff.mpr same]
    exact ⟨rfl, fun kind => rfl, fun g => rfl⟩

theorem normal_form_of_pairs_interleaved :
    (∀ name value, LastBinds [("b", "1"), ("a", "2"), ("b", ""), ("b", "3")] name value ↔
        LastBinds [("b", "3"), ("a", "2")] name value) ∧
      (ofPairs [("b", "1"), ("a", "2"), ("b", ""), ("b", "3")]).identifier = "a=2,b=3" ∧
      (ofPairs ((ofPairs [("b", "3"), ("a", "2")]).entries ++ [("c", "4"), ("a", "5"), ("c", "6")])).identifier
        = "a=5,b=3,c=6" := by
  obtain ⟨-, -, equal, laid⟩ := normal_form_of_pairs
  obtain ⟨same_iff, told⟩ := equal [("b", "1"), ("a", "2"), ("b", ""), ("b", "3")] [("b", "3"), ("a", "2")]
  have bound := same_iff.mp (by decide)
  refine ⟨bound, (told bound).1, ?_⟩
  rw [(laid _ _).1]
  decide

end AxisGrid.Point
