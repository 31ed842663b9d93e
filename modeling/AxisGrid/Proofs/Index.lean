import AxisGrid.Grid.Index
import AxisGrid.Proofs.Count
import AxisGrid.Proofs.Radix
import AxisGrid.Table.Lemmas

/-! A point is numbered by the places of its values, read as digits, and an index below the count is
taken apart into the same digits. So each index names one point over the grid, each point over the
grid has one index, and entries for other names play no part. -/
namespace AxisGrid

namespace Axis

theorem indexOf?_lt {a : Axis} {value : String} {d : Nat} (h : a.indexOf? value = some d) :
    d < a.size := by
  obtain ⟨inside, -⟩ := List.getElem?_eq_some_iff.mp (valueAt?_eq_some_iff.mpr h)
  exact inside

theorem exists_valueAt? {a : Axis} {d : Nat} (below : d < a.size) : ∃ value, a.valueAt? d = some value :=
  ⟨a.values[d], List.getElem?_eq_getElem below⟩

theorem exists_indexOf? {a : Axis} {value : String} (member : value ∈ a.values) :
    ∃ d, a.indexOf? value = some d := by
  cases found : a.indexOf? value with
  | none => exact absurd member (indexOf?_eq_none_iff.mp found)
  | some d => exact ⟨d, rfl⟩

end Axis

namespace Point

theorem ext_get? {p q : Point} (same : ∀ name, p.get? name = q.get? name) : p = q := by
  cases p
  cases q
  exact congrArg Point.mk (Table.ext_get? same)

theorem mem_entries_iff {p : Point} {name value : String} : (name, value) ∈ p.entries ↔ p.get? name = some value :=
  Table.mem_entries_iff

theorem mem_names_iff_get? {p : Point} {name : String} : name ∈ p.names ↔ p.get? name ≠ none := by
  rw [Ne, get?, Table.get?_eq_none_iff, not_not, names]

theorem get?_restrict (p : Point) (names : List String) (name : String) :
    (p.restrict names).get? name = if name ∈ names then p.get? name else none := by
  have kept := Table.get?_filterKeys p.table names.contains name
  simp only [List.contains_iff_mem] at kept
  exact kept

theorem get?_ofPairs (pairs : List (String × String)) (name : String) :
    (ofPairs pairs).get? name = Table.last? name pairs :=
  Table.get?_ofList pairs name

theorem get?_override (p : Point) (pairs : List (String × String)) (name : String) :
    (p.override pairs).get? name = (Table.last? name pairs).or (p.get? name) :=
  Table.get?_insertAll p.table pairs name

theorem contains_iff {p : Point} {name : String} : p.contains name ↔ p.get? name ≠ none := by
  cases found : p.get? name with
  | none =>
    have absent : p.contains name = false := congrArg Option.isSome found
    simp [absent]
  | some value =>
    have here : p.contains name = true := congrArg Option.isSome found
    simp [here]

theorem contains_ofPairs {pairs : List (String × String)} {name : String} :
    (ofPairs pairs).contains name ↔ name ∈ pairs.map (·.1) := by
  rw [contains_iff, get?_ofPairs, Ne, Table.last?_eq_none_iff, not_not]

/-- The place of a point's value on an axis. -/
def place? (p : Point) (a : Axis) : Option Nat := (p.get? a.name).bind a.indexOf?

def Places (p : Point) : List Axis → List Nat → Prop :=
  List.Forall₂ fun a d => p.place? a = some d

/-- A point binds the names of a grid and no others, each to a value that its axis declares. -/
structure Over (p : Point) (g : Grid) : Prop where
  names : ∀ name, p.contains name ↔ name ∈ g.names
  declared : ∀ a ∈ g.axes, ∃ value ∈ a.values, p.get? a.name = some value

theorem place?_eq_some_iff {p : Point} {a : Axis} {d : Nat} :
    p.place? a = some d ↔ d < a.size ∧ p.get? a.name = a.valueAt? d := by
  rw [place?, Option.bind_eq_some_iff]
  constructor
  · rintro ⟨value, bound, place⟩
    exact ⟨Axis.indexOf?_lt place, bound.trans (Axis.valueAt?_eq_some_iff.mpr place).symm⟩
  · rintro ⟨below, bound⟩
    obtain ⟨value, at_d⟩ := Axis.exists_valueAt? below
    exact ⟨value, bound.trans at_d, Axis.valueAt?_eq_some_iff.mp at_d⟩

theorem exists_place? {p : Point} {a : Axis} :
    (∃ d, p.place? a = some d) ↔ ∃ value ∈ a.values, p.get? a.name = some value := by
  constructor
  · rintro ⟨d, place⟩
    obtain ⟨below, bound⟩ := place?_eq_some_iff.mp place
    obtain ⟨value, at_d⟩ := Axis.exists_valueAt? below
    exact ⟨value, List.mem_of_getElem? at_d, bound.trans at_d⟩
  · rintro ⟨value, member, bound⟩
    obtain ⟨d, place⟩ := Axis.exists_indexOf? member
    exact ⟨d, by rw [place?, bound]; exact place⟩

theorem Places.fits {p : Point} {axes : List Axis} {ds : List Nat} (places : p.Places axes ds) :
    Radix.Fits (axes.map Axis.size) ds := by
  induction places with
  | nil => exact .nil
  | cons head _ ih => exact .cons (place?_eq_some_iff.mp head).1 ih

theorem Places.get?_eq {p q : Point} {axes : List Axis} {ds : List Nat} (hp : p.Places axes ds)
    (hq : q.Places axes ds) {a : Axis} (member : a ∈ axes) : p.get? a.name = q.get? a.name := by
  induction hp with
  | nil => cases member
  | @cons b d axes ds head _ ih =>
    cases hq with
    | cons head' tail' =>
      rcases List.mem_cons.mp member with rfl | later
      · exact (place?_eq_some_iff.mp head).2.trans (place?_eq_some_iff.mp head').2.symm
      · exact ih tail' later

theorem exists_places {p : Point} {axes : List Axis} (placed : ∀ a ∈ axes, ∃ d, p.place? a = some d) :
    ∃ ds, p.Places axes ds := by
  induction axes with
  | nil => exact ⟨[], .nil⟩
  | cons a axes ih =>
    obtain ⟨d, head⟩ := placed a List.mem_cons_self
    obtain ⟨ds, tail⟩ := ih fun b hb => placed b (List.mem_cons_of_mem _ hb)
    exact ⟨d :: ds, .cons head tail⟩

end Point

namespace Grid

open Radix

def Declares (g : Grid) (e : String × String) : Prop := ∃ a ∈ g.axes, a.name = e.1 ∧ e.2 ∈ a.values

instance (g : Grid) (e : String × String) : Decidable (g.Declares e) :=
  inferInstanceAs (Decidable (∃ a ∈ g.axes, a.name = e.1 ∧ e.2 ∈ a.values))

theorem pushDigit?_eq_some_iff {index radix digit next : Nat} :
    pushDigit? index radix digit = some next ↔
      index * radix + digit < Word.bound ∧ index * radix + digit = next := by
  simp only [pushDigit?, Option.bind_eq_some_iff, Word.mul?_eq_some_iff, Word.add?_eq_some_iff]
  constructor
  · rintro ⟨product, ⟨-, rfl⟩, sum⟩
    exact sum
  · rintro ⟨fits, rfl⟩
    exact ⟨_, ⟨Nat.lt_of_le_of_lt (Nat.le_add_right _ _) fits, rfl⟩, fits, rfl⟩

theorem indexFrom_cons_eq_ok_iff {p : Point} {start i : Nat} {a : Axis} {axes : List Axis} :
    (indexFrom p start (a :: axes)).outcome = .ok i ↔
      ∃ d, p.place? a = some d ∧ start * a.size + d < Word.bound ∧
        (indexFrom p (start * a.size + d) axes).outcome = .ok i := by
  simp only [indexFrom, Point.place?]
  cases p.get? a.name with
  | none => simp
  | some value =>
    cases place : a.indexOf? value with
    | none => simp [place]
    | some d =>
      cases push : pushDigit? start a.size d with
      | none =>
        have large : ¬ start * a.size + d < Word.bound := fun fits => by
          rw [pushDigit?_eq_some_iff.mpr ⟨fits, rfl⟩] at push
          cases push
        simp [place, push, large, Report.quiet]
      | some next =>
        obtain ⟨fits, rfl⟩ := pushDigit?_eq_some_iff.mp push
        simp [place, push, fits]

/-- Numbering succeeds exactly when every axis of the row has a place for its value and the number
that the places write behind `start` fits, and then it gives this number. No number on the way is
larger, since a radix that has a place is not zero. -/
theorem indexFrom_eq_ok_iff {p : Point} {axes : List Axis} {start i : Nat} (small : start < Word.bound) :
    (indexFrom p start axes).outcome = .ok i ↔
      ∃ ds, p.Places axes ds ∧ i = start * (axes.map Axis.size).prod + value (axes.map Axis.size) ds ∧
        i < Word.bound := by
  induction axes generalizing start with
  | nil =>
    constructor
    · intro h
      cases h
      exact ⟨[], .nil, by simp [value], small⟩
    · rintro ⟨ds, places, rfl, -⟩
      cases places
      simp [indexFrom, value]
  | cons a axes ih =>
    have regroup (d v : Nat) : (start * a.size + d) * (axes.map Axis.size).prod + v
        = start * (a.size * (axes.map Axis.size).prod) + (d * (axes.map Axis.size).prod + v) := by ring
    rw [indexFrom_cons_eq_ok_iff]
    constructor
    · rintro ⟨d, head, fits, run⟩
      obtain ⟨ds, tail, total, limit⟩ := (ih fits).mp run
      refine ⟨d :: ds, .cons head tail, ?_, limit⟩
      rw [total, regroup]
      rfl
    · rintro ⟨ds, places, total, limit⟩
      cases places with
      | @cons _ d _ ds head tail =>
        have total' : i = (start * a.size + d) * (axes.map Axis.size).prod
            + value (axes.map Axis.size) ds := by
          rw [regroup]
          exact total
        have grows : start * a.size + d ≤ (start * a.size + d) * (axes.map Axis.size).prod :=
          Nat.le_mul_of_pos_right _ (prod_pos (Point.Places.fits tail))
        have fits : start * a.size + d < Word.bound := by omega
        exact ⟨d, head, fits, (ih fits).mpr ⟨ds, tail, total', limit⟩⟩

theorem index_eq_ok_iff {g : Grid} {p : Point} {i : Nat} :
    g.index p = .ok i ↔ ∃ ds, p.Places g.axes ds ∧ i = value g.radices ds ∧ i < Word.bound := by
  have run : (indexFrom p 0 g.axes).outcome = .ok i ↔ _ := indexFrom_eq_ok_iff (by decide)
  simp only [Nat.zero_mul, Nat.zero_add] at run
  exact run

/-- The values at a row of digits, under the names of their axes. An axis that has no such value is
passed over, which `names_choose` excludes for digits that fit. -/
def choose : List Axis → List Nat → List (String × String)
  | a :: axes, d :: ds =>
    match a.valueAt? d with
    | some value => (a.name, value) :: choose axes ds
    | none => choose axes ds
  | _, _ => []

/-- Behind a row of axes the quotient by its product is left, and what was taken are its digits. -/
theorem peel_eq (i : Nat) (axes : List Axis) :
    peel i axes = (i / (axes.map Axis.size).prod, choose axes (digits (axes.map Axis.size) i)) := by
  induction axes with
  | nil => simp [peel, choose]
  | cons a axes ih =>
    have quotient : i / (axes.map Axis.size).prod / a.size = i / (a.size * (axes.map Axis.size).prod) := by
      rw [Nat.div_div_eq_div_mul, Nat.mul_comm]
    rw [peel, List.foldr_cons, ← peel, ih]
    refine Prod.ext ?_ rfl
    simpa only [List.map_cons, List.prod_cons] using quotient

theorem names_choose {axes : List Axis} {ds : List Nat} (fits : Fits (axes.map Axis.size) ds) :
    (choose axes ds).map (·.1) = axes.map (·.name) := by
  induction axes generalizing ds with
  | nil => rfl
  | cons a axes ih =>
    cases fits with
    | @cons _ d _ ds below rest =>
      obtain ⟨value, at_d⟩ := Axis.exists_valueAt? below
      simp only [choose, at_d, List.map_cons, ih rest]

theorem places_of_choose {p : Point} {axes : List Axis} {ds : List Nat}
    (fits : Fits (axes.map Axis.size) ds)
    (binds : ∀ e ∈ choose axes ds, p.get? e.1 = some e.2) : p.Places axes ds := by
  induction axes generalizing ds with
  | nil =>
    cases fits
    exact .nil
  | cons a axes ih =>
    cases fits with
    | @cons _ d _ ds below rest =>
      obtain ⟨value, at_d⟩ := Axis.exists_valueAt? below
      simp only [choose, at_d, List.forall_mem_cons] at binds
      exact .cons (Point.place?_eq_some_iff.mpr ⟨below, binds.1.trans at_d.symm⟩) (ih rest binds.2)

section InRange

variable {g : Grid} {i : Nat}

theorem pointAt_eq (g : Grid) (i : Nat) : g.pointAt i = .ofPairs (choose g.axes (digits g.radices i)) := by
  rw [pointAt, peel_eq, radices]

theorem digits_fit (below : i < g.radices.prod) : Fits g.radices (digits g.radices i) :=
  Radix.digits_fit (Nat.lt_of_le_of_lt (Nat.zero_le i) below) i

theorem pointAt_places (below : i < g.radices.prod) :
    (g.pointAt i).Places g.axes (digits g.radices i) := by
  have fits := digits_fit below
  have distinct : ((choose g.axes (digits g.radices i)).map (·.1)).Nodup := by
    rw [names_choose fits]
    exact g.nodup_names
  refine places_of_choose fits fun e he => ?_
  rw [pointAt_eq, Point.get?_ofPairs, Table.last?_eq_some_iff_mem distinct]
  exact he

theorem pointAt_contains (below : i < g.radices.prod) (name : String) :
    (g.pointAt i).contains name ↔ name ∈ g.names := by
  rw [pointAt_eq, Point.contains_ofPairs, names_choose (digits_fit below)]
  rfl

end InRange

end Grid

namespace Point

theorem exists_place?_of_places {p : Point} {axes : List Axis} {ds : List Nat} (places : p.Places axes ds)
    {a : Axis} (member : a ∈ axes) : ∃ d, p.place? a = some d := by
  induction places with
  | nil => cases member
  | @cons b d axes ds head _ ih =>
    rcases List.mem_cons.mp member with rfl | later
    · exact ⟨d, head⟩
    · exact ih later

theorem over_iff {p : Point} {g : Grid} :
    p.Over g ↔ (∀ name, p.contains name ↔ name ∈ g.names) ∧ ∃ ds, p.Places g.axes ds := by
  constructor
  · intro on_grid
    exact ⟨on_grid.names, exists_places fun a ha => exists_place?.mpr (on_grid.declared a ha)⟩
  · rintro ⟨names, ds, places⟩
    exact ⟨names, fun a ha => exists_place?.mp (exists_place?_of_places places ha)⟩

theorem Over.declares {p : Point} {g : Grid} (on_grid : p.Over g) {e : String × String}
    (member : e ∈ p.entries) : g.Declares e := by
  have bound : p.get? e.1 = some e.2 := mem_entries_iff.mp member
  have named : e.1 ∈ g.names := (on_grid.names e.1).mp (contains_iff.mpr (by simp [bound]))
  obtain ⟨a, ha, same⟩ := List.mem_map.mp named
  obtain ⟨value, declared, bound'⟩ := on_grid.declared a ha
  rw [same, bound] at bound'
  cases bound'
  exact ⟨a, ha, same, declared⟩

theorem restrict_of_over {p : Point} {g : Grid} (on_grid : p.Over g) : p.restrict g.names = p := by
  apply ext_get?
  intro name
  rw [get?_restrict]
  by_cases member : name ∈ g.names
  · rw [if_pos member]
  · have absent : p.get? name = none := by
      by_contra bound
      exact member ((on_grid.names name).mp (contains_iff.mpr bound))
    rw [if_neg member, absent]

end Point

namespace Grid

open Radix

variable {g : Grid}

theorem index_pointAt {i : Nat} (below : i < g.radices.prod) (limit : i < Word.bound) :
    g.index (g.pointAt i) = .ok i := by
  have written : value g.radices (digits g.radices i) = i := by
    rw [value_digits, Nat.mod_eq_of_lt below]
  exact index_eq_ok_iff.mpr ⟨_, pointAt_places below, written.symm, limit⟩

theorem pointAt_index {p : Point} {i : Nat} (numbered : g.index p = .ok i) :
    i < g.radices.prod ∧ g.pointAt i = p.restrict g.names := by
  obtain ⟨ds, places, rfl, -⟩ := index_eq_ok_iff.mp numbered
  have below : value g.radices ds < g.radices.prod := value_lt places.fits
  have read : digits g.radices (value g.radices ds) = ds := digits_value places.fits
  refine ⟨below, Point.ext_get? fun name => ?_⟩
  rw [Point.get?_restrict]
  by_cases member : name ∈ g.names
  · obtain ⟨a, ha, rfl⟩ := List.mem_map.mp member
    have placed := pointAt_places below
    rw [read] at placed
    rw [if_pos member]
    exact placed.get?_eq places ha
  · rw [if_neg member]
    by_contra bound
    exact member ((pointAt_contains below name).mp (Point.contains_iff.mpr bound))

theorem exists_index {p : Point} (on_grid : p.Over g) (limit : g.radices.prod ≤ Word.bound) :
    ∃ i, g.index p = .ok i := by
  obtain ⟨-, ds, places⟩ := Point.over_iff.mp on_grid
  have below := value_lt places.fits
  exact ⟨_, index_eq_ok_iff.mpr ⟨ds, places, rfl, Nat.lt_of_lt_of_le below limit⟩⟩

/-- Where the points of a grid can be counted, indexes below the count and points over the grid name
each other; where they cannot, there is no point at any index. -/
theorem point_index_inverse (g : Grid) :
    (g.count? = none → ∀ i, g.point i = .error .indexOverflow) ∧
    ∀ n, g.count? = some n →
      (∀ i, n ≤ i → g.point i = .error (.indexOutOfRange i n)) ∧
      (∀ i, i < n → ∃ p, g.point i = .ok p ∧ p.Over g ∧ g.index p = .ok i) ∧
      (∀ p i, g.index p = .ok i → i < n ∧ g.point i = .ok (p.restrict g.names)) ∧
      (∀ p, p.Over g → ∃ i, i < n ∧ g.index p = .ok i ∧ g.point i = .ok p) := by
  refine ⟨fun lost i => (point_eq_overflow_iff g i).mpr lost, fun n counted => ?_⟩
  have small := count?_lt counted
  have total : n = g.radices.prod := (count?_eq_some_iff.mp counted).2
  have point_of_lt {i : Nat} (below : i < n) : g.point i = .ok (g.pointAt i) := by
    simp [point, counted, below]
  have point_of_index {p : Point} {i : Nat} (numbered : g.index p = .ok i) :
      i < n ∧ g.point i = .ok (p.restrict g.names) := by
    obtain ⟨below, same⟩ := pointAt_index numbered
    rw [← total] at below
    exact ⟨below, by rw [point_of_lt below, same]⟩
  refine ⟨fun i above => ?_, fun i below => ?_, fun p i => point_of_index, fun p on_grid => ?_⟩
  · simp [point, counted, Nat.not_lt_of_le above]
  · have below' : i < g.radices.prod := total ▸ below
    have on_grid := Point.over_iff.mpr ⟨pointAt_contains below', _, pointAt_places below'⟩
    exact ⟨_, point_of_lt below, on_grid, index_pointAt below' (Nat.lt_trans below small)⟩
  · obtain ⟨i, numbered⟩ := exists_index on_grid (by omega)
    obtain ⟨below, named⟩ := point_of_index numbered
    rw [Point.restrict_of_over on_grid] at named
    exact ⟨i, below, numbered, named⟩

end Grid

end AxisGrid
