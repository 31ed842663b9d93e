import AxisGrid.Decimal.Shortest

/-!
The text of a floating-point number: its shortest decimal, with a point and at least one digit on
either side of it, or with an exponent where the point would stand too far off.
-/

namespace AxisGrid.Decimal

/-- Which decimals are written without an exponent: those whose point stands at most `before`
digits behind the first digit and fewer than `zeros` zeros before it. -/
structure Layout where
  before : Int
  zeros : Int

/-- Numbers from `0.00001` to below `10 ^ 16` need no exponent. -/
def Layout.plain : Layout := ⟨16, 5⟩

/-- The exponent with its sign, also a positive one, and without leading zeros. -/
def exponentText (e : Int) : List Char :=
  'e' :: (if e < 0 then '-' else '+') :: Nat.toDigits 10 e.natAbs

def Layout.write (layout : Layout) (d : Decimal) : List Char :=
  let digits := Nat.toDigits 10 d.digits
  let point : Int := digits.length + d.exponent
  if 0 ≤ d.exponent ∧ point ≤ layout.before then
    digits ++ List.replicate d.exponent.toNat '0' ++ ['.', '0']
  else if 0 < point ∧ point ≤ layout.before then
    digits.take point.toNat ++ '.' :: digits.drop point.toNat
  else if -layout.zeros < point ∧ point ≤ 0 then
    ['0', '.'] ++ List.replicate (-point).toNat '0' ++ digits
  else
    let mantissa := match digits with
      | [] => []
      | [d] => [d]
      | d :: rest => d :: '.' :: rest
    mantissa ++ exponentText (point - 1)

/-- The text of a finite floating-point number. -/
def text (x : Float) : String :=
  let bits := x.toBits.toNat
  let sign := if 0x8000000000000000 ≤ bits then ['-'] else []
  let magnitude :=
    if bits % 0x8000000000000000 = 0 then ['0', '.', '0']
    else Layout.plain.write (shortest (Binary.ofBits bits))
  String.ofList (sign ++ magnitude)

end AxisGrid.Decimal
