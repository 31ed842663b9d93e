import Mathlib.Algebra.BigOperators.Group.List.Basic
import Mathlib.Data.List.Forall2
import Mathlib.Tactic.Ring

/-! Numbers written with one radix for each digit, first digit most significant. A row of radices
spans the numbers below their product: on these `value` and `digits` are inverse to each other,
whatever the radices. -/
namespace AxisGrid.Radix

/-- The number that a row of digits writes. -/
def value : List Nat → List Nat → Nat
  | _ :: bs, d :: ds => d * bs.prod + value bs ds
  | _, _ => 0

def digits : List Nat → Nat → List Nat
  | [], _ => []
  | b :: bs, n => n / bs.prod % b :: digits bs n

def Fits : List Nat → List Nat → Prop := List.Forall₂ fun b d => d < b

theorem value_lt {bs ds : List Nat} (fits : Fits bs ds) : value bs ds < bs.prod := by
  induction fits with
  | nil => simp [value]
  | @cons b d bs ds below _ ih =>
    have whole : (d + 1) * bs.prod ≤ b * bs.prod := Nat.mul_le_mul_right _ below
    rw [Nat.add_one_mul] at whole
    simp only [value, List.prod_cons]
    omega

theorem prod_pos {bs ds : List Nat} (fits : Fits bs ds) : 0 < bs.prod :=
  Nat.lt_of_le_of_lt (Nat.zero_le _) (value_lt fits)

theorem digits_add (bs : List Nat) (m n : Nat) : digits bs (m * bs.prod + n) = digits bs n := by
  induction bs generalizing m with
  | nil => rfl
  | cons b bs ih =>
    have regroup : m * (b * bs.prod) = m * b * bs.prod := by ring
    simp only [digits, List.prod_cons, regroup, ih]
    rcases Nat.eq_zero_or_pos bs.prod with none | some
    · simp [none]
    · have split : (m * b * bs.prod + n) / bs.prod = n / bs.prod + b * m := by
        rw [Nat.add_comm, Nat.add_mul_div_right _ _ some, Nat.mul_comm m b]
      rw [split, Nat.add_mul_mod_self_left]

theorem digits_value {bs ds : List Nat} (fits : Fits bs ds) : digits bs (value bs ds) = ds := by
  induction fits with
  | nil => rfl
  | @cons b d bs ds below rest ih =>
    have first : (d * bs.prod + value bs ds) / bs.prod = d := by
      rw [Nat.add_comm, Nat.add_mul_div_right _ _ (prod_pos rest), Nat.div_eq_of_lt (value_lt rest),
        Nat.zero_add]
    simp only [value, digits, first, Nat.mod_eq_of_lt below, digits_add, ih]

theorem value_digits (bs : List Nat) (n : Nat) : value bs (digits bs n) = n % bs.prod := by
  induction bs with
  | nil => simp [value, Nat.mod_one]
  | cons b bs ih =>
    simp only [digits, value, ih, List.prod_cons]
    rw [Nat.mul_comm b, Nat.mod_mul, Nat.add_comm, Nat.mul_comm]

theorem digits_fit {bs : List Nat} (positive : 0 < bs.prod) (n : Nat) : Fits bs (digits bs n) := by
  induction bs with
  | nil => exact .nil
  | cons b bs ih =>
    rw [List.prod_cons] at positive
    exact .cons (Nat.mod_lt _ (Nat.pos_of_mul_pos_right positive)) (ih (Nat.pos_of_mul_pos_left positive))

end AxisGrid.Radix
