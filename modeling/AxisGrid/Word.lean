/-!
Counts and indexes are natural numbers of at most sixty-four bits. Arithmetic on them is exact and
has no result where the exact one does not fit.
-/

namespace AxisGrid.Word

/-- The first number that does not fit. -/
def bound : Nat := UInt64.size

/-- The number itself, if it fits. -/
def narrow? (n : Nat) : Option Nat :=
  if n < bound then some n else none

def mul? (a b : Nat) : Option Nat := narrow? (a * b)

def add? (a b : Nat) : Option Nat := narrow? (a + b)

theorem narrow?_eq_some_iff {n m : Nat} : narrow? n = some m ↔ n < bound ∧ n = m := by
  by_cases h : n < bound <;> simp [narrow?, h]

theorem narrow?_eq_none_iff {n : Nat} : narrow? n = none ↔ bound ≤ n := by
  by_cases h : n < bound
  · simp [narrow?, h]
  · simpa [narrow?, h] using Nat.le_of_not_lt h

theorem mul?_eq_some_iff {a b m : Nat} : mul? a b = some m ↔ a * b < bound ∧ a * b = m :=
  narrow?_eq_some_iff

theorem mul?_eq_none_iff {a b : Nat} : mul? a b = none ↔ bound ≤ a * b :=
  narrow?_eq_none_iff

theorem add?_eq_some_iff {a b m : Nat} : add? a b = some m ↔ a + b < bound ∧ a + b = m :=
  narrow?_eq_some_iff

end AxisGrid.Word
