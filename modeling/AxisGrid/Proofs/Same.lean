import AxisGrid.Proofs.Numbering

/-! Two grids are the same if they declare the same axes and values, in whatever order. Numbers do
depend on that order: from the numbers of a grid that has points the whole grid can be told, the order
of its axes and of their values included. Only where an axis is empty, so that no point is numbered,
is some of the order lost. -/
namespace AxisGrid

namespace Axis

theorem same_iff {a b : Axis} :
    a.same b ↔ a.name = b.name ∧ ∀ value, value ∈ a.values ↔ value ∈ b.values := by
  simp only [same, Bool.and_eq_true, beq_iff_eq, List.all_eq_true, List.contains_iff_mem]
  constructor
  · rintro ⟨⟨names, lengths⟩, subset⟩
    have sub : a.values.Subperm b.values := List.subperm_of_subset a.nodup_values subset
    have perm := sub.perm_of_length_le (Nat.le_of_eq lengths.symm)
    exact ⟨names, fun value => perm.mem_iff⟩
  · rintro ⟨names, members⟩
    have perm := (List.perm_ext_iff_of_nodup a.nodup_values b.nodup_values).mpr members
    exact ⟨⟨names, perm.length_eq⟩, fun value member => (members value).mp member⟩

theorem size_eq {a b : Axis} (members : ∀ value, value ∈ a.values ↔ value ∈ b.values) :
    a.size = b.size :=
  ((List.perm_ext_iff_of_nodup a.nodup_values b.nodup_values).mpr members).length_eq

theorem ext_indexOf? {a b : Axis} (names : a.name = b.name)
    (members : ∀ value, value ∈ a.values ↔ value ∈ b.values)
    (places : ∀ value d, a.indexOf? value = some d → b.indexOf? value = some d) : a = b := by
  have back : ∀ value d, b.indexOf? value = some d → a.indexOf? value = some d := by
    intro value d at_d
    have member := List.mem_of_getElem? (valueAt?_eq_some_iff.mpr at_d)
    obtain ⟨e, at_e⟩ := exists_indexOf? ((members value).mpr member)
    have agree := places value e at_e
    rw [at_d] at agree
    cases agree
    exact at_e
  refine Axis.ext names (List.ext_getElem? fun d => Option.ext fun value => ?_)
  constructor
  · intro at_d
    exact valueAt?_eq_some_iff.mpr (places value d (valueAt?_eq_some_iff.mp at_d))
  · intro at_d
    exact valueAt?_eq_some_iff.mpr (back value d (valueAt?_eq_some_iff.mp at_d))

end Axis

namespace Point

theorem get?_override_self (p : Point) (key value : String) :
    (p.override [(key, value)]).get? key = some value := by
  simp [get?_override, Table.last?]

theorem get?_override_other {axes : List Axis} {key : String} (absent : key ∉ axes.map (·.name)) (p : Point)
    (value : String) : ∀ a ∈ axes, (p.override [(key, value)]).get? a.name = p.get? a.name := by
  intro a member
  have other : a.name ≠ key := fun same => absent (same ▸ List.mem_map_of_mem member)
  have unbound : Table.last? a.name [(key, value)] = none := by simp [Table.last?, other]
  rw [get?_override, unbound, Option.none_or]

end Point

namespace Grid

open Radix

/-- What the axes of two rows have in common, for each name that is in both. -/
def Alike (as bs : List Axis) : Prop :=
  ∀ a ∈ as, ∀ b ∈ bs, a.name = b.name → ∀ value, value ∈ a.values ↔ value ∈ b.values

theorem same_iff {g h : Grid} : g.same h ↔ g.names.Perm h.names ∧ Alike g.axes h.axes := by
  simp only [Grid.same, Bool.and_eq_true, beq_iff_eq, List.all_eq_true, Option.any_eq_true]
  constructor
  · rintro ⟨lengths, found⟩
    have subset : ∀ name ∈ g.names, name ∈ h.names := by
      intro name named
      obtain ⟨a, ha, rfl⟩ := List.mem_map.mp named
      obtain ⟨b, at_name, -⟩ := found a ha
      obtain ⟨hb, names⟩ := find?_eq_some_iff.mp at_name
      exact List.mem_map.mpr ⟨b, hb, names⟩
    have sub : g.names.Subperm h.names := List.subperm_of_subset g.nodup_names subset
    refine ⟨sub.perm_of_length_le (by simp [names, lengths]), fun a ha b hb names => ?_⟩
    obtain ⟨c, at_name, same⟩ := found a ha
    rw [find?_eq_some_iff.mpr ⟨hb, names.symm⟩] at at_name
    cases at_name
    exact (Axis.same_iff.mp same).2
  · rintro ⟨perm, alike⟩
    refine ⟨by simpa [names] using perm.length_eq, fun a ha => ?_⟩
    obtain ⟨b, hb, names⟩ := List.mem_map.mp (perm.mem_iff.mp (List.mem_map_of_mem ha))
    exact ⟨b, find?_eq_some_iff.mpr ⟨hb, names⟩, Axis.same_iff.mpr ⟨names.symm, alike a ha b hb names.symm⟩⟩

theorem exists_counterpart {g h : Grid} (names : ∀ name, name ∈ g.names → name ∈ h.names)
    (alike : Alike g.axes h.axes) {a : Axis} (ha : a ∈ g.axes) :
    ∃ b ∈ h.axes, b.name = a.name ∧ ∀ value, value ∈ a.values ↔ value ∈ b.values := by
  obtain ⟨b, hb, same⟩ := List.mem_map.mp (names a.name (List.mem_map_of_mem ha))
  exact ⟨b, hb, same, alike a ha b hb same.symm⟩

/-- The names of the axes up to the first that is empty: numbering looks at no others. -/
def reached : List Axis → List String
  | [] => []
  | a :: axes => a.name :: if a.size = 0 then [] else reached axes

section Told

variable {a b : Axis} {as bs : List Axis} {s t : Nat}

theorem outcome_unbound {p : Point} {e : PointError} (unbound : ∀ a ∈ as, p.get? a.name = none)
    (refused : (indexFrom p s as).outcome = .error e) : ∃ name, e = .missingValue name := by
  cases as with
  | nil => cases refused
  | cons a as =>
    rw [outcome_missing (unbound a List.mem_cons_self)] at refused
    exact ⟨a.name, (Except.error.inj refused).symm⟩

theorem names_told (told : ∀ p, (indexFrom p s (a :: as)).outcome = (indexFrom p t (b :: bs)).outcome) :
    a.name = b.name := by
  have nothing := told .empty
  rw [outcome_missing rfl, outcome_missing rfl] at nothing
  exact PointError.missingValue.inj (Except.error.inj nothing)

/-- A value of the first axis that does not lead out of range is a value of the other first axis, and
does not lead out of range there: a point with this value alone shows it. -/
theorem place_told (new : a.name ∉ as.map (·.name))
    (told : ∀ p, (indexFrom p s (a :: as)).outcome = (indexFrom p t (b :: bs)).outcome)
    {value : String} {d : Nat} (at_d : a.indexOf? value = some d) (fits : s * a.size + d < Word.bound) :
    ∃ e, b.indexOf? value = some e ∧ t * b.size + e < Word.bound := by
  have names := names_told told
  have bound := Point.get?_override_self .empty a.name value
  have bound' : (Point.empty.override [(a.name, value)]).get? b.name = some value := names ▸ bound
  have unbound := Point.get?_override_other new .empty value
  have lone := told (Point.empty.override [(a.name, value)])
  rw [outcome_digit ((Point.place?_of_get? bound).trans at_d) fits] at lone
  cases at_e : b.indexOf? value with
  | none =>
    rw [outcome_undeclared bound' (Axis.indexOf?_eq_none_iff.mp at_e)] at lone
    obtain ⟨name, wrong⟩ := outcome_unbound unbound lone
    cases wrong
  | some e =>
    refine ⟨e, rfl, Nat.lt_of_not_le fun large => ?_⟩
    rw [outcome_overflow ((Point.place?_of_get? bound').trans at_e) large] at lone
    obtain ⟨name, wrong⟩ := outcome_unbound unbound lone
    cases wrong

theorem step_told (new : a.name ∉ as.map (·.name)) (new' : b.name ∉ bs.map (·.name))
    (told : ∀ p, (indexFrom p s (a :: as)).outcome = (indexFrom p t (b :: bs)).outcome)
    {value : String} {d : Nat} (at_d : a.indexOf? value = some d) (fits : s * a.size + d < Word.bound) :
    ∃ e, b.indexOf? value = some e ∧
      ∀ p, (indexFrom p (s * a.size + d) as).outcome = (indexFrom p (t * b.size + e) bs).outcome := by
  have names := names_told told
  obtain ⟨e, at_e, fits'⟩ := place_told new told at_d fits
  refine ⟨e, at_e, fun p => ?_⟩
  have bound := Point.get?_override_self p a.name value
  have bound' : (p.override [(a.name, value)]).get? b.name = some value := names ▸ bound
  have both := told (p.override [(a.name, value)])
  rw [outcome_digit ((Point.place?_of_get? bound).trans at_d) fits,
    outcome_digit ((Point.place?_of_get? bound').trans at_e) fits'] at both
  rw [← outcome_congr (Point.get?_override_other new p value), both,
    outcome_congr (Point.get?_override_other (names ▸ new') p value)]

end Told

section Rows

variable {a b : Axis} {as bs : List Axis} {s t : Nat}

theorem Alike.tail (alike : Alike (a :: as) (b :: bs)) : Alike as bs := by
  intro c hc d hd
  exact alike c (List.mem_cons_of_mem _ hc) d (List.mem_cons_of_mem _ hd)

theorem Alike.head (alike : Alike (a :: as) (b :: bs)) (names : a.name = b.name) :
    ∀ value, value ∈ a.values ↔ value ∈ b.values :=
  alike a List.mem_cons_self b List.mem_cons_self names

theorem room_tail {k d n : Nat} (below : d < k) (room : (s + 1) * (k * n) ≤ Word.bound) :
    (s * k + d + 1) * n ≤ Word.bound := by
  have grown : s * k + d + 1 ≤ (s + 1) * k := by
    rw [Nat.succ_mul]
    omega
  have scaled := Nat.mul_le_mul_right n grown
  rw [Nat.mul_assoc] at scaled
  exact scaled.trans room

theorem eq_of_mul_add_eq {k d e : Nat} (below : d < k) (below' : e < k) (total : s * k + d = t * k + e) :
    s = t ∧ d = e := by
  have positive : 0 < k := Nat.lt_of_le_of_lt (Nat.zero_le d) below
  obtain ⟨quotient, remainder⟩ := (Nat.div_mod_unique positive).mpr ⟨Nat.add_comm d _, below⟩
  obtain ⟨quotient', remainder'⟩ := (Nat.div_mod_unique positive).mpr ⟨Nat.add_comm e _, below'⟩
  rw [Nat.mul_comm k, total, ← Nat.mul_comm k] at quotient remainder
  exact ⟨quotient.symm.trans quotient', remainder.symm.trans remainder'⟩

theorem lt_bound_of_room {i : Nat} {bs : List Nat} (room : (i + 1) * front bs ≤ Word.bound) :
    i < Word.bound := by
  have least := Nat.le_mul_of_pos_right (i + 1) (front_pos bs)
  omega

theorem reached_of_told (distinct : (as.map (·.name)).Nodup) (distinct' : (bs.map (·.name)).Nodup)
    (alike : Alike as bs) (told : ∀ p, (indexFrom p 0 as).outcome = (indexFrom p t bs).outcome) :
    reached as = reached bs := by
  induction as generalizing bs t with
  | nil =>
    cases bs with
    | nil => rfl
    | cons b bs => cases (told .empty).trans (outcome_missing rfl)
  | cons a as ih =>
    cases bs with
    | nil => cases (outcome_missing rfl).symm.trans (told .empty)
    | cons b bs =>
      have ⟨new, distinct⟩ := List.nodup_cons.mp distinct
      have ⟨new', distinct'⟩ := List.nodup_cons.mp distinct'
      have names := names_told told
      have sizes := Axis.size_eq (alike.head names)
      rw [reached, reached, names, ← sizes]
      rcases Nat.eq_zero_or_pos a.size with empty | positive
      · rw [if_pos empty, if_pos empty]
      -- the value at place 0 leaves the number 0, so no row is too wide for this
      · obtain ⟨value, at_zero⟩ := Axis.exists_valueAt? positive
        have at_d := Axis.valueAt?_eq_some_iff.mp at_zero
        have fits : 0 * a.size + 0 < Word.bound := by
          rw [Nat.zero_mul]
          decide
        obtain ⟨e, -, tails⟩ := step_told new new' told at_d fits
        rw [Nat.zero_mul] at tails
        rw [ih distinct distinct' alike.tail tails]

/-- Rows without an empty axis that number alike are equal, and so are the numbers they start from. -/
theorem eq_of_told (distinct : (as.map (·.name)).Nodup) (distinct' : (bs.map (·.name)).Nodup)
    (alike : Alike as bs) (room : (s + 1) * front (as.map Axis.size) ≤ Word.bound)
    (full : 0 ∉ as.map Axis.size)
    (told : ∀ p, (indexFrom p s as).outcome = (indexFrom p t bs).outcome) : as = bs ∧ s = t := by
  induction as generalizing bs s t with
  | nil =>
    cases bs with
    | nil => exact ⟨rfl, Except.ok.inj (told .empty)⟩
    | cons b bs => cases (told .empty).trans (outcome_missing rfl)
  | cons a as ih =>
    cases bs with
    | nil => cases (outcome_missing rfl).symm.trans (told .empty)
    | cons b bs =>
      have ⟨new, distinct⟩ := List.nodup_cons.mp distinct
      have ⟨new', distinct'⟩ := List.nodup_cons.mp distinct'
      have ⟨filled, full⟩ := not_or.mp (mt List.mem_cons.mpr full)
      have names := names_told told
      have members := alike.head names
      have sizes := Axis.size_eq members
      have positive : 0 < a.size := Nat.pos_of_ne_zero (Ne.symm filled)
      rw [List.map_cons, front_cons positive] at room
      -- by the rest of the row a value has one place in both first axes, and the starts are equal
      have rest {value : String} {d : Nat} (at_d : a.indexOf? value = some d) :
          as = bs ∧ s = t ∧ b.indexOf? value = some d := by
        have below := Axis.indexOf?_lt at_d
        have room' := room_tail below room
        have fits := lt_bound_of_room room'
        obtain ⟨e, at_e, tails⟩ := step_told new new' told at_d fits
        have below' := Axis.indexOf?_lt at_e
        rw [← sizes] at below' tails
        obtain ⟨rows, total⟩ := ih distinct distinct' alike.tail room' full tails
        obtain ⟨starts, rfl⟩ := eq_of_mul_add_eq below below' total
        exact ⟨rows, starts, at_e⟩
      have axis : a = b := Axis.ext_indexOf? names members fun value d at_d => (rest at_d).2.2
      obtain ⟨value, at_zero⟩ := Axis.exists_valueAt? positive
      obtain ⟨rows, starts, -⟩ := rest (Axis.valueAt?_eq_some_iff.mp at_zero)
      exact ⟨axis ▸ rows ▸ rfl, starts⟩

theorem exists_of_reached_cons (alike : Alike (a :: as) bs) (same : reached (a :: as) = reached bs) :
    ∃ b cs, bs = b :: cs ∧ a.name = b.name ∧ (∀ value, value ∈ a.values ↔ value ∈ b.values) ∧
      Alike as cs ∧ (0 < a.size → reached as = reached cs) := by
  cases bs with
  | nil => cases same
  | cons b cs =>
    obtain ⟨names, tails⟩ := List.cons.inj same
    have members := alike.head names
    refine ⟨b, cs, rfl, names, members, alike.tail, fun positive => ?_⟩
    rw [← Axis.size_eq members, if_neg positive.ne', if_neg positive.ne'] at tails
    exact tails

theorem front_of_reached (alike : Alike as bs) (same : reached as = reached bs)
    (empty : 0 ∈ as.map Axis.size) : front (bs.map Axis.size) = front (as.map Axis.size) := by
  induction as generalizing bs with
  | nil => cases empty
  | cons a as ih =>
    obtain ⟨b, cs, rfl, -, members, alike, tails⟩ := exists_of_reached_cons alike same
    rw [List.map_cons, List.map_cons, ← Axis.size_eq members]
    rcases Nat.eq_zero_or_pos a.size with zero | positive
    · rw [zero, front_zero_cons, front_zero_cons]
    · have later := (List.mem_cons.mp empty).resolve_left positive.ne
      rw [front_cons positive, front_cons positive, ih alike (tails positive) later]

/-- No point gets past an empty axis, and those that are refused in front of it are refused whatever
the number so far. -/
theorem outcome_of_reached (alike : Alike as bs) (same : reached as = reached bs)
    (empty : 0 ∈ as.map Axis.size) (room : (s + 1) * front (as.map Axis.size) ≤ Word.bound)
    (room' : (t + 1) * front (as.map Axis.size) ≤ Word.bound) (p : Point) :
    (indexFrom p s as).outcome = (indexFrom p t bs).outcome := by
  induction as generalizing bs s t with
  | nil => cases empty
  | cons a as ih =>
    obtain ⟨b, cs, rfl, names, members, alike, tails⟩ := exists_of_reached_cons alike same
    have sizes := Axis.size_eq members
    cases bound : p.get? a.name with
    | none => rw [outcome_missing bound, outcome_missing (names ▸ bound), names]
    | some value =>
      have bound' : p.get? b.name = some value := names ▸ bound
      by_cases known : value ∈ a.values
      -- the places may differ, but the refusal that must follow does not show the number
      · obtain ⟨d, at_d⟩ := Axis.exists_indexOf? known
        obtain ⟨e, at_e⟩ := Axis.exists_indexOf? ((members value).mp known)
        have below := Axis.indexOf?_lt at_d
        have below' := Axis.indexOf?_lt at_e
        have positive : 0 < a.size := by omega
        have later := (List.mem_cons.mp empty).resolve_left positive.ne
        rw [List.map_cons, front_cons positive] at room room'
        have next := room_tail below room
        have next' := room_tail (sizes ▸ below') room'
        rw [outcome_digit ((Point.place?_of_get? bound).trans at_d) (lt_bound_of_room next),
          outcome_digit ((Point.place?_of_get? bound').trans at_e) (sizes ▸ lt_bound_of_room next'), ← sizes]
        exact ih alike (tails positive) later next next'
      · rw [outcome_undeclared bound known, outcome_undeclared bound' (mt (members value).mpr known), names]

end Rows

theorem count?_of_reached {g h : Grid} (same : g.same h) (rows : reached g.axes = reached h.axes)
    (empty : 0 ∈ g.radices) (fits : front g.radices < Word.bound) : h.count? = some 0 := by
  obtain ⟨perm, alike⟩ := same_iff.mp same
  have reach : front h.radices = front g.radices := front_of_reached alike rows empty
  refine count?_eq_some_iff.mpr ⟨reach ▸ fits, (List.prod_eq_zero ?_).symm⟩
  obtain ⟨a, ha, zero⟩ := List.mem_map.mp empty
  obtain ⟨b, hb, -, members⟩ := exists_counterpart (fun _ => perm.mem_iff.mp) alike ha
  exact List.mem_map.mpr ⟨b, hb, (Axis.size_eq members).symm.trans zero⟩

/-- If two grids are the same, the order of the axes up to the first empty one can be told from their
numbers. The two number alike, where the points can be counted, exactly if this order is one and the
grids are equal unless there is no point. -/
theorem congruent_iff {g h : Grid} (same : g.same h) :
    ((∀ p, g.index p = h.index p) → reached g.axes = reached h.axes) ∧
    ∀ n, g.count? = some n →
      (((∀ p, g.index p = h.index p) ∧ ∀ i, g.point i = h.point i) ↔
        reached g.axes = reached h.axes ∧ (0 < n → g = h)) := by
  have alike := (same_iff.mp same).2
  have rows_told (told : ∀ p, g.index p = h.index p) : reached g.axes = reached h.axes :=
    reached_of_told g.nodup_names h.nodup_names alike told
  refine ⟨rows_told, fun n counted => ?_⟩
  obtain ⟨fits, total⟩ := count?_eq_some_iff.mp counted
  have room : (0 + 1) * front g.radices ≤ Word.bound := by omega
  constructor
  · rintro ⟨told, -⟩
    refine ⟨rows_told told, fun positive => ?_⟩
    have full : 0 ∉ g.radices := by
      intro empty
      rw [total, List.prod_eq_zero empty] at positive
      exact Nat.lt_irrefl 0 positive
    exact Grid.ext (eq_of_told g.nodup_names h.nodup_names alike room full told).1
  · rintro ⟨rows, whole⟩
    rcases Nat.eq_zero_or_pos n with rfl | positive
    · have empty : 0 ∈ g.radices := List.prod_eq_zero_iff.mp total.symm
      have counted' : h.count? = some 0 := count?_of_reached same rows empty fits
      refine ⟨outcome_of_reached alike rows empty room room, fun i => ?_⟩
      simp [point, counted, counted']
    · cases whole positive
      exact ⟨fun p => rfl, fun i => rfl⟩

theorem congruent_behind_empty_axis :
    barred.same barredTurned ∧ barred ≠ barredTurned ∧ (∀ p, barred.index p = barredTurned.index p) ∧
      ∀ i, barred.point i = barredTurned.point i := by
  have same : barred.same barredTurned := by decide
  have counted : barred.count? = some 0 := by decide
  have congruent := ((congruent_iff same).2 0 counted).mpr
  exact ⟨same, by decide, congruent ⟨rfl, fun positive => absurd positive (Nat.lt_irrefl 0)⟩⟩

theorem same_numbered_unlike :
    square.same turned ∧ square.count? = some 4 ∧
    square.index (.ofPairs [("x", "1"), ("y", "2")]) = .ok 1 ∧
    turned.index (.ofPairs [("x", "1"), ("y", "2")]) = .ok 2 ∧
    square.point 1 = .ok (.ofPairs [("x", "1"), ("y", "2")]) ∧
    turned.point 1 = .ok (.ofPairs [("x", "2"), ("y", "1")]) := by
  decide

end Grid

end AxisGrid
