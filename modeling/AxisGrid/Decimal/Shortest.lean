/-!
The fewest decimal digits that read back as a given floating-point number. All numbers that lie
between the midpoints to the neighbours read back; the midpoints themselves do when the number's
significand is even. Of the decimals with fewest digits the nearest is taken, the even one of two.
-/

namespace AxisGrid

/-- The number `digits * 10 ^ exponent`. -/
structure Decimal where
  digits : Nat
  exponent : Int
  deriving DecidableEq, Repr

namespace Decimal

/-- A positive floating-point number `4 * significand * 2 ^ exponent` with its interval: what reads
back lies between `4 * significand - below` and `4 * significand + 2` in units of
`2 ^ exponent`. -/
structure Binary where
  significand : Nat
  exponent : Int
  below : Nat
  deriving DecidableEq, Repr

/-- Takes the magnitude of a finite number from its bits. -/
def Binary.ofBits (bits : Nat) : Binary :=
  let fraction := bits % 0x10000000000000
  let biased : Nat := bits / 0x10000000000000 % 0x800
  if biased = 0 then ⟨fraction, -1076, 2⟩
  else ⟨fraction + 0x10000000000000, (biased : Int) - 1077, if fraction = 0 ∧ 1 < biased then 1 else 2⟩

/-- The fraction `(a, b)` with `a / b = 2 ^ two / 10 ^ ten`. -/
def unitFraction (two ten : Int) : Nat × Nat :=
  (Nat.pow 2 two.toNat * Nat.pow 10 (-ten).toNat, Nat.pow 2 (-two).toNat * Nat.pow 10 ten.toNat)

/-- The best decimal that reads back among the multiples of `10 ^ ten`, if there is one. -/
def onGrid? (x : Binary) (ten : Int) : Option Decimal :=
  let (a, b) := unitFraction x.exponent ten
  let value := 4 * x.significand * a
  let lower := (4 * x.significand - x.below) * a
  let upper := (4 * x.significand + 2) * a
  let inclusive := x.significand % 2 = 0
  let floor := value / b
  let down := 0 < floor ∧ (lower < floor * b ∨ inclusive ∧ lower = floor * b)
  let up := (floor + 1) * b < upper ∨ inclusive ∧ (floor + 1) * b = upper
  let toFloor := value - floor * b
  let toCeiling := (floor + 1) * b - value
  if down ∧ (¬ up ∨ toFloor < toCeiling ∨ toFloor = toCeiling ∧ floor % 2 = 0) then
    some ⟨floor, ten⟩
  else if up then some ⟨floor + 1, ten⟩
  else none

/-- The number of digits before the decimal point, or less the zeros behind it. -/
def magnitude (x : Binary) : Int :=
  let (a, b) := unitFraction x.exponent 0
  let value := 4 * x.significand * a
  if b ≤ value then (Nat.toDigits 10 (value / b)).length
  else
    let inverse := (Nat.toDigits 10 (b / value)).length
    if b ≤ value * Nat.pow 10 (inverse - 1) then 2 - inverse else 1 - inverse

/-- The shortest decimal of a positive finite number. The grids begin at the power of ten above it
and end at the seventeenth digit, which always suffices. -/
def shortest (x : Binary) : Decimal :=
  let top := magnitude x
  ((List.range 18).findSome? fun n => onGrid? x (top - (n : Nat))).getD ⟨0, 0⟩

end Decimal

end AxisGrid
