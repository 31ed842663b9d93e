import AxisGrid.Proofs.Index
import Mathlib.Data.List.Induction

/-! Numbering reads the axes from the first and stops at the first fault. What a fault is, is said of
the exact number that the places write so far, which is not bounded. A number that outgrew a word does
not come back, since an axis that has a place for a value is not empty; so a point that has its values
is numbered exactly if its last number fits. -/
namespace AxisGrid

namespace Point

open Radix

/-- The number that the places of a point write on a row of axes, however large. -/
def exactIndex? (p : Point) (axes : List Axis) : Option Nat :=
  axes.foldlM (fun n a => (p.place? a).map (n * a.size + ·)) 0

/-- What stops the numbering of a point at an axis that stands behind others. -/
inductive Fault (p : Point) (before : List Axis) (a : Axis) : PointError → Prop
  | missing (unbound : p.get? a.name = none) : Fault p before a (.missingValue a.name)
  | undeclared {value : String} (bound : p.get? a.name = some value) (unknown : value ∉ a.values) :
      Fault p before a (.unknownValue a.name value)
  | overflow {n : Nat} (written : p.exactIndex? (before ++ [a]) = some n) (large : Word.bound ≤ n) :
      Fault p before a .indexOverflow

def Clear (p : Point) (axes : List Axis) : Prop :=
  ∀ before a after e, axes = before ++ a :: after → ¬ p.Fault before a e

def FirstFault (p : Point) (axes : List Axis) (e : PointError) : Prop :=
  ∃ before a after, axes = before ++ a :: after ∧ p.Clear before ∧ p.Fault before a e

section Row

variable {p q : Point} {axes : List Axis} {a : Axis}

theorem exactIndex?_snoc {n : Nat} :
    p.exactIndex? (axes ++ [a]) = some n ↔
      ∃ m d, p.exactIndex? axes = some m ∧ p.place? a = some d ∧ m * a.size + d = n := by
  rw [exactIndex?, List.foldlM_append, ← exactIndex?]
  simp only [List.foldlM_cons, List.foldlM_nil, Option.bind_eq_bind, Option.bind_eq_some_iff,
    Option.map_eq_some_iff, Option.pure_def, Option.some.injEq]
  constructor
  · rintro ⟨m, front, _, ⟨d, place, rfl⟩, rfl⟩
    exact ⟨m, d, front, place, rfl⟩
  · rintro ⟨m, d, front, place, rfl⟩
    exact ⟨m, front, _, ⟨d, place, rfl⟩, rfl⟩

theorem exactIndex?_eq_some_iff {n : Nat} :
    p.exactIndex? axes = some n ↔ ∃ ds, p.Places axes ds ∧ n = value (axes.map Axis.size) ds := by
  -- the fold hands a number on from axis to axis, so the induction is for every start
  have carry (start : Nat) : axes.foldlM (fun n a => (p.place? a).map (n * a.size + ·)) start = some n ↔
      ∃ ds, p.Places axes ds ∧ n = start * (axes.map Axis.size).prod + value (axes.map Axis.size) ds := by
    induction axes generalizing start with
    | nil =>
      constructor
      · intro written
        cases written
        exact ⟨[], .nil, by simp [value]⟩
      · rintro ⟨ds, places, rfl⟩
        cases places
        simp [value]
    | cons a axes ih =>
      have regroup (d v : Nat) : (start * a.size + d) * (axes.map Axis.size).prod + v
          = start * (a.size * (axes.map Axis.size).prod) + (d * (axes.map Axis.size).prod + v) := by ring
      simp only [List.foldlM_cons, Option.bind_eq_bind, Option.bind_eq_some_iff, Option.map_eq_some_iff,
        ih]
      constructor
      · rintro ⟨_, ⟨d, head, rfl⟩, ds, tail, rfl⟩
        exact ⟨d :: ds, .cons head tail, regroup d _⟩
      · rintro ⟨ds, places, rfl⟩
        cases places with
        | @cons _ d _ ds head tail => exact ⟨_, ⟨d, head, rfl⟩, ds, tail, (regroup d _).symm⟩
  have written := carry 0
  simp only [Nat.zero_mul, Nat.zero_add] at written
  exact written

theorem exactIndex?_inj {n : Nat} (hp : p.exactIndex? axes = some n) (hq : q.exactIndex? axes = some n)
    (member : a ∈ axes) : p.get? a.name = q.get? a.name := by
  obtain ⟨ds, places, rfl⟩ := exactIndex?_eq_some_iff.mp hp
  obtain ⟨es, places', same⟩ := exactIndex?_eq_some_iff.mp hq
  have rows : ds = es := by
    rw [← digits_value places.fits, same, digits_value places'.fits]
  subst rows
  exact places.get?_eq places' member

theorem exactIndex?_congr (same : ∀ a ∈ axes, p.get? a.name = q.get? a.name) :
    p.exactIndex? axes = q.exactIndex? axes := by
  unfold exactIndex?
  generalize 0 = start
  induction axes generalizing start with
  | nil => rfl
  | cons a axes ih =>
    have head : p.place? a = q.place? a := by
      rw [place?, same a List.mem_cons_self]
      rfl
    simp only [List.foldlM_cons, head]
    refine congrArg _ (funext fun n => ih ?_ n)
    intro b member
    exact same b (List.mem_cons_of_mem _ member)

theorem clear_snoc : p.Clear (axes ++ [a]) ↔ p.Clear axes ∧ ∀ e, ¬ p.Fault axes a e := by
  constructor
  · intro clear
    constructor
    · rintro before b after e rfl
      exact clear before b (after ++ [a]) e (by simp)
    · intro e
      exact clear axes a [] e rfl
  · rintro ⟨clear, last⟩ before b after e split
    rcases List.eq_nil_or_concat after with rfl | ⟨after, c, rfl⟩
    · obtain ⟨rfl, same⟩ := List.append_inj' split rfl
      cases same
      exact last e
    · rw [List.concat_eq_append, ← List.cons_append, ← List.append_assoc] at split
      exact clear before b after e (List.append_inj' split rfl).1

theorem place?_of_get? {value : String} (bound : p.get? a.name = some value) :
    p.place? a = a.indexOf? value := by
  rw [place?, bound]
  rfl

theorem place?_eq_none_iff :
    p.place? a = none ↔ p.get? a.name = none ∨ ∃ value, p.get? a.name = some value ∧ value ∉ a.values := by
  cases bound : p.get? a.name with
  | none => simp [place?, bound]
  | some value => simp [place?_of_get? bound, Axis.indexOf?_eq_none_iff]

/-- Nothing stops a point exactly if all its places are there and the number they write fits. -/
theorem clear_iff : p.Clear axes ↔ ∃ n, p.exactIndex? axes = some n ∧ n < Word.bound := by
  induction axes using List.reverseRecOn with
  | nil =>
    refine ⟨fun _ => ⟨0, rfl, by decide⟩, fun _ before a after e split => ?_⟩
    simp at split
  | append_singleton axes a ih =>
    rw [clear_snoc, ih]
    constructor
    · rintro ⟨⟨m, front, -⟩, last⟩
      cases place : p.place? a with
      | none =>
        rcases place?_eq_none_iff.mp place with unbound | ⟨value, bound, unknown⟩
        · exact absurd (Fault.missing unbound) (last _)
        · exact absurd (Fault.undeclared bound unknown) (last _)
      | some d =>
        have written := exactIndex?_snoc.mpr ⟨m, d, front, place, rfl⟩
        refine ⟨_, written, Nat.lt_of_not_le fun large => ?_⟩
        exact last _ (.overflow written large)
    · rintro ⟨n, written, fits⟩
      obtain ⟨m, d, front, place, rfl⟩ := exactIndex?_snoc.mp written
      obtain ⟨below, bound⟩ := place?_eq_some_iff.mp place
      -- an axis with a place for the value is not empty, so the number in front was no larger
      have grows : m ≤ m * a.size := Nat.le_mul_of_pos_right _ (by omega)
      refine ⟨⟨m, front, by omega⟩, fun e fault => ?_⟩
      cases fault with
      | missing unbound => simp [place?, unbound] at place
      | undeclared bound unknown =>
        rw [place?_of_get? bound, Axis.indexOf?_eq_none_iff.mpr unknown] at place
        cases place
      | overflow written' large =>
        rw [written] at written'
        cases written'
        omega

theorem exists_firstFault (faulty : ¬ p.Clear axes) : ∃ e, p.FirstFault axes e := by
  induction axes using List.reverseRecOn with
  | nil => exact absurd (clear_iff.mpr ⟨0, rfl, by decide⟩) faulty
  | append_singleton axes a ih =>
    by_cases clear : p.Clear axes
    · rw [clear_snoc, not_and, not_forall] at faulty
      obtain ⟨e, fault⟩ := faulty clear
      exact ⟨e, axes, a, [], rfl, clear, not_not.mp fault⟩
    · obtain ⟨e, before, b, after, rfl, first⟩ := ih clear
      exact ⟨e, before, b, after ++ [a], by simp, first⟩

end Row

end Point

namespace Grid

section Outcome

variable {p : Point} {start : Nat} {a : Axis} {axes : List Axis}

theorem outcome_missing (unbound : p.get? a.name = none) :
    (indexFrom p start (a :: axes)).outcome = .error (.missingValue a.name) := by
  simp [indexFrom, unbound]

theorem outcome_undeclared {value : String} (bound : p.get? a.name = some value)
    (unknown : value ∉ a.values) :
    (indexFrom p start (a :: axes)).outcome = .error (.unknownValue a.name value) := by
  simp [indexFrom, bound, Axis.indexOf?_eq_none_iff.mpr unknown]

theorem pushDigit?_eq_none_iff {index radix digit : Nat} :
    pushDigit? index radix digit = none ↔ Word.bound ≤ index * radix + digit := by
  rw [Option.eq_none_iff_forall_ne_some]
  constructor
  · intro none
    exact Nat.le_of_not_lt fun fits => none _ (pushDigit?_eq_some_iff.mpr ⟨fits, rfl⟩)
  · intro large next pushed
    have fits := (pushDigit?_eq_some_iff.mp pushed).1
    omega

theorem outcome_overflow {d : Nat} (place : p.place? a = some d)
    (large : Word.bound ≤ start * a.size + d) :
    (indexFrom p start (a :: axes)).outcome = .error .indexOverflow := by
  obtain ⟨value, bound, at_d⟩ := Option.bind_eq_some_iff.mp place
  simp [indexFrom, bound, at_d, pushDigit?_eq_none_iff.mpr large, Report.quiet]

theorem outcome_digit {d : Nat} (place : p.place? a = some d) (fits : start * a.size + d < Word.bound) :
    (indexFrom p start (a :: axes)).outcome = (indexFrom p (start * a.size + d) axes).outcome := by
  obtain ⟨value, bound, at_d⟩ := Option.bind_eq_some_iff.mp place
  simp [indexFrom, bound, at_d, pushDigit?_eq_some_iff.mpr ⟨fits, rfl⟩]

/-- Axes that do not stop a point hand their exact number on to those behind them. -/
theorem outcome_append (clear : p.Clear axes) (later : List Axis) :
    ∃ n, p.exactIndex? axes = some n ∧
      (indexFrom p 0 (axes ++ later)).outcome = (indexFrom p n later).outcome := by
  induction axes using List.reverseRecOn generalizing later with
  | nil => exact ⟨0, rfl, rfl⟩
  | append_singleton axes a ih =>
    obtain ⟨n, written, fits⟩ := Point.clear_iff.mp clear
    obtain ⟨m, d, front, place, rfl⟩ := Point.exactIndex?_snoc.mp written
    obtain ⟨m', front', run⟩ := ih (Point.clear_snoc.mp clear).1 (a :: later)
    rw [front] at front'
    cases front'
    refine ⟨_, written, ?_⟩
    rw [List.append_assoc, List.singleton_append, run, outcome_digit place fits]

theorem outcome_congr {q : Point} (same : ∀ a ∈ axes, p.get? a.name = q.get? a.name) (start : Nat) :
    (indexFrom p start axes).outcome = (indexFrom q start axes).outcome := by
  induction axes generalizing start with
  | nil => rfl
  | cons a axes ih =>
    have head := same a List.mem_cons_self
    have tail := ih fun b member => same b (List.mem_cons_of_mem _ member)
    cases bound : p.get? a.name with
    | none => rw [outcome_missing bound, outcome_missing (head.symm.trans bound)]
    | some value =>
      have bound' := head.symm.trans bound
      cases at_d : a.indexOf? value with
      | none =>
        have unknown := Axis.indexOf?_eq_none_iff.mp at_d
        rw [outcome_undeclared bound unknown, outcome_undeclared bound' unknown]
      | some d =>
        have place := (Point.place?_of_get? bound).trans at_d
        have place' := (Point.place?_of_get? bound').trans at_d
        rcases Nat.lt_or_ge (start * a.size + d) Word.bound with fits | large
        · rw [outcome_digit place fits, outcome_digit place' fits, tail]
        · rw [outcome_overflow place large, outcome_overflow place' large]

end Outcome

section Decided

variable {g : Grid} {p q : Point}

theorem index_of_firstFault {e : PointError} (first : p.FirstFault g.axes e) : g.index p = .error e := by
  obtain ⟨before, a, after, split, clear, fault⟩ := first
  obtain ⟨m, front, run⟩ := outcome_append clear (a :: after)
  have stop : g.index p = (indexFrom p m (a :: after)).outcome := by
    rw [index, indexReport, split, run]
  rw [stop]
  cases fault with
  | missing unbound => exact outcome_missing unbound
  | undeclared bound unknown => exact outcome_undeclared bound unknown
  | overflow written large =>
    obtain ⟨m', d, front', place, rfl⟩ := Point.exactIndex?_snoc.mp written
    rw [front] at front'
    cases front'
    exact outcome_overflow place large

theorem index_eq_ok_iff_exact {n : Nat} :
    g.index p = .ok n ↔ p.exactIndex? g.axes = some n ∧ n < Word.bound := by
  rw [index_eq_ok_iff, Point.exactIndex?_eq_some_iff]
  constructor
  · rintro ⟨ds, places, written, fits⟩
    exact ⟨⟨ds, places, written⟩, fits⟩
  · rintro ⟨⟨ds, places, written⟩, fits⟩
    exact ⟨ds, places, written, fits⟩

theorem index_eq_error_iff {e : PointError} : g.index p = .error e ↔ p.FirstFault g.axes e := by
  refine ⟨fun failed => ?_, index_of_firstFault⟩
  have faulty : ¬ p.Clear g.axes := by
    intro clear
    obtain ⟨n, written, fits⟩ := Point.clear_iff.mp clear
    rw [index_eq_ok_iff_exact.mpr ⟨written, fits⟩] at failed
    cases failed
  obtain ⟨e', first⟩ := Point.exists_firstFault faulty
  have failed' := index_of_firstFault first
  rw [failed] at failed'
  cases failed'
  exact first

theorem index_congr (same : ∀ name ∈ g.names, p.get? name = q.get? name) : g.index p = g.index q := by
  refine outcome_congr (fun a member => ?_) 0
  exact same a.name (List.mem_map_of_mem member)

theorem exists_exactIndex? (declared : ∀ a ∈ g.axes, ∃ value ∈ a.values, p.get? a.name = some value) :
    ∃ n, p.exactIndex? g.axes = some n := by
  obtain ⟨ds, places⟩ := Point.exists_places fun a member => Point.exists_place?.mpr (declared a member)
  exact ⟨_, Point.exactIndex?_eq_some_iff.mpr ⟨ds, places, rfl⟩⟩

theorem index_eq_ok_iff_clear {n : Nat} :
    g.index p = .ok n ↔ p.Clear g.axes ∧ p.exactIndex? g.axes = some n := by
  rw [index_eq_ok_iff_exact, Point.clear_iff]
  constructor
  · rintro ⟨written, fits⟩
    exact ⟨⟨n, written, fits⟩, written⟩
  · rintro ⟨⟨m, written', fits⟩, written⟩
    cases written.symm.trans written'
    exact ⟨written, fits⟩

theorem exactIndex?_eq_iff {n : Nat} (written : p.exactIndex? g.axes = some n) :
    q.exactIndex? g.axes = some n ↔ ∀ name ∈ g.names, p.get? name = q.get? name := by
  constructor
  · intro written' name named
    obtain ⟨a, member, rfl⟩ := List.mem_map.mp named
    exact Point.exactIndex?_inj written written' member
  · intro agree
    rw [← written]
    refine (Point.exactIndex?_congr fun a member => ?_).symm
    exact agree a.name (List.mem_map_of_mem member)

/-- A point is refused for its first fault, and without a fault it is numbered exactly. So a point with
declared values is numbered if its exact number fits, whether or not the points can be counted, and
this number tells its values under the names of the grid; nothing else in a point is looked at. -/
theorem index_decided (g : Grid) (p : Point) :
    (∀ e, g.index p = .error e ↔ p.FirstFault g.axes e) ∧
    (∀ n, g.index p = .ok n ↔ p.Clear g.axes ∧ p.exactIndex? g.axes = some n) ∧
    ((∀ a ∈ g.axes, ∃ value ∈ a.values, p.get? a.name = some value) →
      ∃ n, p.exactIndex? g.axes = some n ∧ (∀ i, g.index p = .ok i ↔ i = n ∧ n < Word.bound) ∧
        ∀ q : Point, q.exactIndex? g.axes = some n ↔ ∀ name ∈ g.names, p.get? name = q.get? name) ∧
    (∀ q i, g.index p = .ok i → g.index q = .ok i →
      (∀ name ∈ g.names, p.get? name = q.get? name) ∧ (p.Over g → q.Over g → p = q)) ∧
    (∀ q : Point, (∀ name ∈ g.names, p.get? name = q.get? name) → g.index p = g.index q) := by
  refine ⟨fun e => index_eq_error_iff, fun n => index_eq_ok_iff_clear, fun declared => ?_,
    fun q i numbered same => ?_, fun q => index_congr⟩
  · obtain ⟨n, written⟩ := exists_exactIndex? declared
    refine ⟨n, written, fun i => ?_, fun q => exactIndex?_eq_iff written⟩
    rw [index_eq_ok_iff_exact, written, Option.some.injEq]
    constructor
    · rintro ⟨rfl, fits⟩
      exact ⟨rfl, fits⟩
    · rintro ⟨rfl, fits⟩
      exact ⟨rfl, fits⟩
  · have agree := (exactIndex?_eq_iff (index_eq_ok_iff_exact.mp numbered).1).mp (index_eq_ok_iff_exact.mp same).1
    refine ⟨agree, fun on_grid on_grid' => ?_⟩
    rw [← Point.restrict_of_over on_grid, ← (pointAt_index numbered).2, (pointAt_index same).2,
      Point.restrict_of_over on_grid']

end Decided

end Grid

end AxisGrid
