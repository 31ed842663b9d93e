import AxisGrid.Decimal.Layout
import AxisGrid.Word

/-!
Numbers as JSON texts write them. A numeral without point and exponent is an integer where it fits
64 bits; every other numeral stands for a floating-point number, if it is not too large for one.
-/

namespace AxisGrid.Json

inductive Number
  | natural (n : Nat)
  /-- The integer below zero with this magnitude. -/
  | negative (magnitude : Nat)
  | real (x : Float)

namespace Number

def text : Number → String
  | natural n => toString n
  | negative n => "-" ++ toString n
  | real x => Decimal.text x

end Number

/-- The parts of a written number: the digits before and behind the point, and the exponent. -/
structure Numeral where
  negative : Bool
  whole : List Nat
  fraction : List Nat
  exponent : Option Int
  deriving DecidableEq, Repr

namespace Numeral

/-- Appends digits to a number while it fits 64 bits; the other digits are left. -/
def takeDigits (n : Nat) : List Nat → Nat × List Nat
  | [] => (n, [])
  | d :: rest =>
    match Word.narrow? (10 * n + d) with
    | some m => takeDigits m rest
    | none => (n, d :: rest)

/-- The floating-point number next to `10 ^ e`, for exponents up to 308. -/
def powerOfTen (e : Nat) : Float := OfScientific.ofScientific 1 false e

/-- Divides by a power of ten, in steps that a floating-point number can hold. -/
def divide (x : Float) (e : Nat) : Float :=
  if e ≤ 308 then x / powerOfTen e
  else if x == 0 then x
  else divide (x / powerOfTen 308) (e - 308)
termination_by e

/-- Scales by a power of ten, unless the result is too large. -/
def scale? (x : Float) (e : Int) : Option Float :=
  if e < 0 then some (divide x e.natAbs)
  else if 308 < e then if x == 0 then some x else none
  else
    let y := x * powerOfTen e.toNat
    if y.isInf then none else some y

/-- The floating-point number of a numeral. Whole digits that do not fit the significand count for
the exponent, those of the fraction are dropped. -/
def real? (n : Numeral) : Option Float :=
  let (whole, wholeLeft) := takeDigits 0 n.whole
  let (significand, fractionLeft) := takeDigits whole n.fraction
  let used := n.fraction.length - fractionLeft.length
  let exponent : Int := wholeLeft.length - used + n.exponent.getD 0
  (scale? significand.toUInt64.toFloat exponent).map fun x => if n.negative then -x else x

/-- The value of a numeral. Zero with a sign is a floating-point number. -/
def value? (n : Numeral) : Option Number :=
  match n.fraction, n.exponent, takeDigits 0 n.whole with
  | [], none, (m, []) =>
    if n.negative = false then some (.natural m)
    else if 0 < m ∧ 2 * m ≤ Word.bound then some (.negative m)
    else n.real?.map .real
  | _, _, _ => n.real?.map .real

end Numeral

end AxisGrid.Json
