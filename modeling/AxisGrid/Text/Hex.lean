/-!
Hexadecimal text. `fixed` writes a number with a given count of lower-case digits and `value?`
reads digits back: `value?_fixed` says that nothing but the digits above the width is lost.
`ofBytes` writes each byte with two digits, and `bytes?` reads all of them back (`bytes?_ofBytes`).
-/

namespace AxisGrid.Text.Hex

/-- The lower-case digit of a number below sixteen. -/
def digit (n : Nat) : Char :=
  if n < 10 then Char.ofNat (0x30 + n) else Char.ofNat (0x57 + n)

def digit? (c : Char) : Option Nat :=
  if '0' ≤ c ∧ c ≤ '9' then some (c.toNat - 0x30)
  else if 'a' ≤ c ∧ c ≤ 'f' then some (c.toNat - 0x57)
  else if 'A' ≤ c ∧ c ≤ 'F' then some (c.toNat - 0x37)
  else none

/-- The last `width` digits of a number, with leading zeros. -/
def fixed : Nat → Nat → List Char
  | 0, _ => []
  | width + 1, n => fixed width (n / 16) ++ [digit (n % 16)]

/-- All digits of a number, without leading zeros. -/
def digits (n : Nat) : List Char := Nat.toDigits 16 n

/-- The number written by a row of digits, the empty row being zero. -/
def value? (cs : List Char) : Option Nat :=
  cs.foldlM (fun n c => (digit? c).map (16 * n + ·)) 0

/-- The bytes written by pairs of digits. -/
def bytes? : List Char → Option (List UInt8)
  | [] => some []
  | [_] => none
  | a :: b :: rest => do
    let hi ← digit? a
    let lo ← digit? b
    return UInt8.ofNat (16 * hi + lo) :: (← bytes? rest)

def ofBytes (bytes : List UInt8) : List Char :=
  bytes.flatMap fun b => fixed 2 b.toNat

def IsLowerDigit (c : Char) : Prop := '0' ≤ c ∧ c ≤ '9' ∨ 'a' ≤ c ∧ c ≤ 'f'

instance (c : Char) : Decidable (IsLowerDigit c) :=
  inferInstanceAs (Decidable ('0' ≤ c ∧ c ≤ '9' ∨ 'a' ≤ c ∧ c ≤ 'f'))

theorem digit?_digit : ∀ n < 16, digit? (digit n) = some n := by decide

theorem isLowerDigit_digit : ∀ n < 16, IsLowerDigit (digit n) := by decide

@[simp]
theorem length_fixed (width n : Nat) : (fixed width n).length = width := by
  induction width generalizing n with
  | zero => rfl
  | succ w ih => simp [fixed, ih]

theorem isLowerDigit_fixed {width n : Nat} {c : Char} (member : c ∈ fixed width n) : IsLowerDigit c := by
  induction width generalizing n with
  | zero => cases member
  | succ w ih =>
    rw [fixed, List.mem_append, List.mem_singleton] at member
    rcases member with front | rfl
    · exact ih front
    · exact isLowerDigit_digit (n % 16) (Nat.mod_lt n (by decide))

theorem value?_fixed (width n : Nat) : value? (fixed width n) = some (n % Nat.pow 16 width) := by
  induction width generalizing n with
  | zero => simp [fixed, value?, Nat.mod_one]
  | succ w ih =>
    have last := digit?_digit (n % 16) (Nat.mod_lt _ (by decide))
    have head : (fixed w (n / 16)).foldlM (fun n c => (digit? c).map (16 * n + ·)) 0
        = some (n / 16 % Nat.pow 16 w) := ih (n / 16)
    have split : n % Nat.pow 16 (w + 1) = 16 * (n / 16 % Nat.pow 16 w) + n % 16 := by
      rw [Nat.pow_eq, Nat.pow_succ', Nat.mod_mul, Nat.add_comm]
      rfl
    rw [split]
    simp [value?, fixed, List.foldlM_append, head, last]

section Bytes

variable {b : UInt8} {bytes : List UInt8}

theorem ofBytes_cons : ofBytes (b :: bytes) = fixed 2 b.toNat ++ ofBytes bytes := rfl

theorem length_ofBytes (bytes : List UInt8) : (ofBytes bytes).length = 2 * bytes.length := by
  induction bytes with
  | nil => rfl
  | cons b bytes ih =>
    simp only [ofBytes_cons, List.length_append, length_fixed, ih, List.length_cons]
    omega

theorem isLowerDigit_ofBytes {c : Char} (member : c ∈ ofBytes bytes) : IsLowerDigit c := by
  obtain ⟨b, -, written⟩ := List.mem_flatMap.mp member
  exact isLowerDigit_fixed written

/-- A zero in front is written like any other digit, so the pairs stay apart. -/
theorem bytes?_ofBytes (bytes : List UInt8) : bytes? (ofBytes bytes) = some bytes := by
  induction bytes with
  | nil => rfl
  | cons b bytes ih =>
    have small := b.toNat_lt
    have high := digit?_digit (b.toNat / 16 % 16) (by omega)
    have low := digit?_digit (b.toNat % 16) (by omega)
    have whole : 16 * (b.toNat / 16 % 16) + b.toNat % 16 = b.toNat := by omega
    have pair : fixed 2 b.toNat = [digit (b.toNat / 16 % 16), digit (b.toNat % 16)] := rfl
    rw [ofBytes_cons, pair, List.cons_append, List.cons_append, List.nil_append, bytes?, high, low, ih]
    show some (UInt8.ofNat (16 * (b.toNat / 16 % 16) + b.toNat % 16) :: bytes) = some (b :: bytes)
    rw [whole, UInt8.ofNat_toNat]

end Bytes

end AxisGrid.Text.Hex
