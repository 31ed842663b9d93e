import AxisGrid.Cursor
import Mathlib.Algebra.BigOperators.Group.List.Basic
import Mathlib.Algebra.BigOperators.Ring.List
import Mathlib.Algebra.Ring.Nat
import Mathlib.Data.List.Nodup

/-! The count of a grid is the product of its radices, multiplied up from the first axis. A product
that once outgrew a word is not brought back by an empty axis behind it, so the count is lost exactly
when the axes in front of the first empty one are too many, and this depends on their order. -/
namespace AxisGrid

namespace Radix

/-- The product of the radices in front of the first zero. -/
def front (bs : List Nat) : Nat := (bs.takeWhile (0 < ·)).prod

/-- The product of all radices that are not zero. -/
def filled (bs : List Nat) : Nat := (bs.filter (0 < ·)).prod

@[simp] theorem front_zero_cons (bs : List Nat) : front (0 :: bs) = 1 := by simp [front]

theorem front_cons {b : Nat} (positive : 0 < b) (bs : List Nat) : front (b :: bs) = b * front bs := by
  simp [front, positive]

@[simp] theorem filled_zero_cons (bs : List Nat) : filled (0 :: bs) = filled bs := by simp [filled]

theorem filled_cons {b : Nat} (positive : 0 < b) (bs : List Nat) : filled (b :: bs) = b * filled bs := by
  simp [filled, positive]

theorem front_pos (bs : List Nat) : 0 < front bs := by
  induction bs with
  | nil => decide
  | cons b bs ih =>
    rcases Nat.eq_zero_or_pos b with rfl | positive
    · simp
    · rw [front_cons positive]
      exact Nat.mul_pos positive ih

theorem filled_pos (bs : List Nat) : 0 < filled bs := by
  induction bs with
  | nil => decide
  | cons b bs ih =>
    rcases Nat.eq_zero_or_pos b with rfl | positive
    · simpa using ih
    · rw [filled_cons positive]
      exact Nat.mul_pos positive ih

theorem front_le_filled (bs : List Nat) : front bs ≤ filled bs := by
  induction bs with
  | nil => exact Nat.le_refl _
  | cons b bs ih =>
    rcases Nat.eq_zero_or_pos b with rfl | positive
    · rw [front_zero_cons, filled_zero_cons]
      exact filled_pos bs
    · rw [front_cons positive, filled_cons positive]
      exact Nat.mul_le_mul_left b ih

theorem front_append {bs : List Nat} (positive : 0 ∉ bs) (cs : List Nat) :
    front (bs ++ cs) = bs.prod * front cs := by
  induction bs with
  | nil => simp
  | cons b bs ih =>
    have ⟨head, tail⟩ := not_or.mp (mt List.mem_cons.mpr positive)
    rw [List.cons_append, front_cons (Nat.pos_of_ne_zero (Ne.symm head)), ih tail, List.prod_cons,
      Nat.mul_assoc]

theorem front_eq_prod {bs : List Nat} (positive : 0 ∉ bs) : front bs = bs.prod := by
  have whole := front_append positive []
  simpa [front] using whole

theorem prod_le_front (bs : List Nat) : bs.prod ≤ front bs := by
  by_cases empty : 0 ∈ bs
  · rw [List.prod_eq_zero empty]
    exact Nat.zero_le _
  · rw [front_eq_prod empty]

theorem front_zeros {bs : List Nat} (zeros : ∀ b ∈ bs, b = 0) : front bs = 1 := by
  cases bs with
  | nil => rfl
  | cons b bs =>
    rw [zeros b List.mem_cons_self]
    exact front_zero_cons bs

/-- All other radices in front of the zeros are the most that a count can meet on its way. -/
theorem front_filter_append (bs : List Nat) :
    front (bs.filter (0 < ·) ++ bs.filter fun b => !decide (0 < b)) = filled bs := by
  have positive : 0 ∉ bs.filter (0 < ·) := by simp
  have zeros : ∀ b ∈ bs.filter (fun b => !decide (0 < b)), b = 0 := by
    intro b hb
    have none := (List.mem_filter.mp hb).2
    simpa using none
  rw [front_append positive, front_zeros zeros, Nat.mul_one, filled]

theorem filled_perm {bs cs : List Nat} (perm : bs.Perm cs) : filled bs = filled cs :=
  (perm.filter _).prod_eq

/-- Multiplying up from `n` passes `n * front bs` and comes to a stop there or at the product. -/
theorem foldlM_mul? {bs : List Nat} {n : Nat} (fits : n < Word.bound) :
    bs.foldlM Word.mul? n = if n * front bs < Word.bound then some (n * bs.prod) else none := by
  induction bs generalizing n with
  | nil => simp [front, fits]
  | cons b bs ih =>
    rw [List.foldlM_cons]
    rcases Nat.eq_zero_or_pos b with rfl | positive
    · have zero : 0 < Word.bound := Nat.lt_of_le_of_lt (Nat.zero_le n) fits
      simp [Word.mul?, Word.narrow?, ih, zero, fits]
    · rw [front_cons positive, List.prod_cons, ← Nat.mul_assoc, ← Nat.mul_assoc]
      by_cases next : n * b < Word.bound
      · rw [Word.mul?_eq_some_iff.mpr ⟨next, rfl⟩]
        exact ih next
      · have grown : n * b ≤ n * b * front bs := Nat.le_mul_of_pos_right _ (front_pos bs)
        rw [Word.mul?_eq_none_iff.mpr (Nat.le_of_not_lt next), if_neg (by omega)]
        rfl

end Radix

namespace Grid

open Radix

def radices (g : Grid) : List Nat := g.axes.map Axis.size

theorem count?_eq (g : Grid) :
    g.count? = if front g.radices < Word.bound then some g.radices.prod else none := by
  have one : 1 < Word.bound := by decide
  have run : g.radices.foldlM Word.mul? 1 = _ := foldlM_mul? one
  rw [radices, List.foldlM_map, Nat.one_mul, Nat.one_mul] at run
  exact run

theorem count?_eq_some_iff {g : Grid} {n : Nat} :
    g.count? = some n ↔ front g.radices < Word.bound ∧ n = g.radices.prod := by
  rw [count?_eq]
  by_cases fits : front g.radices < Word.bound
  · simp [fits, eq_comm]
  · simp [fits]

theorem count?_eq_none_iff {g : Grid} : g.count? = none ↔ Word.bound ≤ front g.radices := by
  rw [count?_eq]
  by_cases fits : front g.radices < Word.bound
  · simp [fits]
  · simpa [fits] using Nat.le_of_not_lt fits

theorem count?_lt {g : Grid} {n : Nat} (counted : g.count? = some n) : n < Word.bound := by
  obtain ⟨fits, rfl⟩ := count?_eq_some_iff.mp counted
  exact Nat.lt_of_le_of_lt (prod_le_front _) fits

def reorder (g : Grid) (axes : List Axis) (perm : axes.Perm g.axes) : Grid :=
  ⟨axes, (perm.map _).nodup_iff.mpr g.nodup_names⟩

theorem count?_eq_narrow?_iff (g : Grid) :
    g.count? = Word.narrow? g.radices.prod ↔ 0 ∉ g.radices ∨ front g.radices < Word.bound := by
  constructor
  · intro exact_count
    by_cases empty : 0 ∈ g.radices
    · right
      have zero : g.count? = some 0 := by
        rw [exact_count, List.prod_eq_zero empty]
        rfl
      exact (count?_eq_some_iff.mp zero).1
    · exact .inl empty
  · intro condition
    by_cases fits : front g.radices < Word.bound
    · rw [count?_eq_some_iff.mpr ⟨fits, rfl⟩, eq_comm, Word.narrow?_eq_some_iff]
      exact ⟨Nat.lt_of_le_of_lt (prod_le_front _) fits, rfl⟩
    · have large := Nat.le_of_not_lt fits
      have positive : 0 ∉ g.radices := condition.resolve_right fits
      rw [count?_eq_none_iff.mpr large, eq_comm, Word.narrow?_eq_none_iff, ← front_eq_prod positive]
      exact large

/-- Some order of the axes loses a count that another order keeps, unless no axis is empty or all
the others fit. -/
theorem count?_perm_iff (g : Grid) :
    (∀ h : Grid, h.axes.Perm g.axes → h.count? = g.count?) ↔
      0 ∉ g.radices ∨ filled g.radices < Word.bound := by
  constructor
  · intro stable
    refine or_iff_not_imp_left.mpr fun empty => Nat.lt_of_not_le fun large => ?_
    obtain ⟨a, member, zero⟩ := List.mem_map.mp (not_not.mp empty)
    -- the same axes with an empty one in front keep the count, with the empty ones last they lose it
    have emptyFirst : (a :: g.axes.erase a).Perm g.axes := (List.perm_cons_erase member).symm
    have emptyLast : (g.axes.filter (fun a => 0 < a.size) ++
        g.axes.filter fun a => !decide (0 < a.size)).Perm g.axes := List.filter_append_perm _ _
    have kept : (g.reorder _ emptyFirst).count? ≠ none := by
      rw [Ne, count?_eq_none_iff, radices, reorder, List.map_cons, zero, front_zero_cons]
      decide
    have lost : (g.reorder _ emptyLast).count? = none := by
      have reach := front_filter_append g.radices
      rw [radices, List.filter_map, List.filter_map, ← List.map_append] at reach
      exact count?_eq_none_iff.mpr (large.trans_eq reach.symm)
    exact kept ((stable (g.reorder _ emptyFirst) emptyFirst).trans
      ((stable (g.reorder _ emptyLast) emptyLast).symm.trans lost))
  · intro condition h perm
    have radices_perm : h.radices.Perm g.radices := perm.map _
    have same : (front h.radices < Word.bound) = (front g.radices < Word.bound) := by
      rcases condition with positive | fits
      · have positive' : 0 ∉ h.radices := mt radices_perm.mem_iff.mp positive
        rw [front_eq_prod positive, front_eq_prod positive', radices_perm.prod_eq]
      · have below := Nat.lt_of_le_of_lt (front_le_filled g.radices) fits
        have below' := Nat.lt_of_le_of_lt (front_le_filled h.radices) (filled_perm radices_perm ▸ fits)
        exact propext ⟨fun _ => below, fun _ => below'⟩
    simp only [count?_eq, same, radices_perm.prod_eq]

theorem start_eq_overflow_iff (g : Grid) :
    Cursor.start g = .error .indexOverflow ↔ g.count? = none := by
  cases counted : g.count? with
  | none => simp [Cursor.start, counted]
  | some n => simp [Cursor.start, counted]

theorem point_eq_overflow_iff (g : Grid) (i : Nat) :
    g.point i = .error .indexOverflow ↔ g.count? = none := by
  cases counted : g.count? with
  | none => simp [point, counted]
  | some n => by_cases below : i < n <;> simp [point, counted, below]

/-- A count is never wrong, and it is missing only where the axes in front of the first empty one
outgrow a word. It is what the product of all sizes says, in whatever order the axes come, exactly
when no axis is empty or the others together fit; walks and points overflow with the count. -/
theorem count?_exact_iff (g : Grid) :
    (∀ n, g.count? = some n ↔ n = g.radices.prod ∧ front g.radices < Word.bound) ∧
    (g.count? = Word.narrow? g.radices.prod ↔ 0 ∉ g.radices ∨ front g.radices < Word.bound) ∧
    ((∀ h : Grid, h.axes.Perm g.axes → h.count? = Word.narrow? h.radices.prod) ↔
      0 ∉ g.radices ∨ filled g.radices < Word.bound) ∧
    ((∀ h : Grid, h.axes.Perm g.axes → h.count? = g.count?) ↔
      0 ∉ g.radices ∨ filled g.radices < Word.bound) ∧
    (Cursor.start g = .error .indexOverflow ↔ g.count? = none) ∧
    (∀ i, g.point i = .error .indexOverflow ↔ g.count? = none) := by
  refine ⟨fun n => count?_eq_some_iff.trans and_comm, count?_eq_narrow?_iff g, ?_, count?_perm_iff g,
    start_eq_overflow_iff g, point_eq_overflow_iff g⟩
  rw [← count?_perm_iff]
  have radices_perm {h : Grid} (perm : h.axes.Perm g.axes) : h.radices.prod = g.radices.prod :=
    (perm.map Axis.size).prod_eq
  constructor
  · intro product h perm
    rw [product h perm, product g (.refl _), radices_perm perm]
  · intro stable h perm
    have g_exact := (count?_eq_narrow?_iff g).mpr
      (((count?_perm_iff g).mp stable).imp_right (Nat.lt_of_le_of_lt (front_le_filled _)))
    rw [stable h perm, radices_perm perm, g_exact]

def lettered (k : Nat) (values : List String) (nodup : values.Nodup) : Axis :=
  ⟨String.ofList (List.replicate (k + 1) 'a'), values, by simp [String.ext_iff], nodup⟩

/-- Sixty-four axes of two values each, and an axis without values behind them. -/
def wideThenEmpty : Grid where
  axes := (List.range 64).map (lettered · ["0", "1"] (by decide)) ++ [lettered 64 [] .nil]
  nodup_names := by
    have names : ((List.range 65).map fun k => String.ofList (List.replicate (k + 1) 'a')).Nodup := by
      refine List.Nodup.map (fun j k same => ?_) List.nodup_range
      have lengths := congrArg List.length (String.ofList_injective same)
      simpa using lengths
    rw [List.range_succ] at names
    simpa [Function.comp_def, lettered] using names

/-- The same axes, the last one in front. -/
def emptyThenWide : Grid :=
  wideThenEmpty.reorder wideThenEmpty.axes.reverse (List.reverse_perm _)

theorem count?_lost_behind_wide_axes :
    wideThenEmpty.radices.prod = 0 ∧ wideThenEmpty.count? = none ∧
    wideThenEmpty.point 0 = .error .indexOverflow ∧
    emptyThenWide.axes.Perm wideThenEmpty.axes ∧ emptyThenWide.count? = some 0 ∧
    emptyThenWide.point 0 = .error (.indexOutOfRange 0 0) := by
  have lost : wideThenEmpty.count? = none := by decide
  have kept : emptyThenWide.count? = some 0 := by decide
  refine ⟨by decide, lost, by rw [point, lost], List.reverse_perm _, kept, by rw [point, kept]; rfl⟩

/-! Grids of two or three axes, which later modules share as their cases. -/

def square : Grid :=
  ⟨[⟨"x", ["1", "2"], by decide, by decide⟩, ⟨"y", ["1", "2"], by decide, by decide⟩], by decide⟩

def turned : Grid := square.reorder square.axes.reverse (List.reverse_perm _)

def barred : Grid := ⟨⟨"z", [], by decide, .nil⟩ :: square.axes, by decide⟩

def barredTurned : Grid := ⟨⟨"z", [], by decide, .nil⟩ :: turned.axes, by decide⟩

/-- Two axes whose names and values do not come in alphabetical order. -/
def crossed : Grid :=
  ⟨[⟨"y", ["2", "1"], by decide, by decide⟩, ⟨"x", ["b", "a", "c"], by decide, by decide⟩], by decide⟩

def alphabetical : Grid :=
  ⟨[⟨"x", ["a", "b", "c"], by decide, by decide⟩, ⟨"y", ["1", "2"], by decide, by decide⟩], by decide⟩

def overlapping : Grid :=
  ⟨[⟨"x", ["A", "B"], by decide, by decide⟩, ⟨"y", ["B", "C"], by decide, by decide⟩], by decide⟩

end Grid

end AxisGrid
