/-!
FNV-1a with 64 bits. Each byte is xored into the state, which is then multiplied by a prime, so
mixing two chunks in turn is mixing them joined (`mix_append`).
-/

namespace AxisGrid.Fingerprint.Fnv1a

def offsetBasis : UInt64 := 0xcbf29ce484222325

def prime : UInt64 := 0x00000100000001b3

def step (state : UInt64) (byte : UInt8) : UInt64 :=
  (state ^^^ byte.toUInt64) * prime

def mix (state : UInt64) (bytes : List UInt8) : UInt64 :=
  bytes.foldl step state

def hash (bytes : List UInt8) : UInt64 := mix offsetBasis bytes

/-- The xor of the two halves of a state. -/
def fold32 (state : UInt64) : UInt32 :=
  ((state >>> 32) ^^^ (state &&& 0xffffffff)).toUInt32

@[simp]
theorem mix_cons (state : UInt64) (byte : UInt8) (bytes : List UInt8) :
    mix state (byte :: bytes) = mix (step state byte) bytes := rfl

theorem mix_append (state : UInt64) (a b : List UInt8) :
    mix state (a ++ b) = mix (mix state a) b :=
  List.foldl_append

theorem toNat_fold32 (state : UInt64) :
    (fold32 state).toNat = state.toNat / UInt32.size ^^^ state.toNat % UInt32.size := by
  have high : (state >>> 32).toNat = state.toNat / UInt32.size := by
    rw [UInt64.toNat_shiftRight]
    exact Nat.shiftRight_eq_div_pow _ _
  have low : (state &&& 0xffffffff).toNat = state.toNat % UInt32.size := by
    rw [UInt64.toNat_and]
    exact Nat.and_two_pow_sub_one_eq_mod state.toNat 32
  have fits : state.toNat / UInt32.size ^^^ state.toNat % UInt32.size < UInt32.size := by
    have word := state.toNat_lt
    have front : state.toNat / UInt32.size < 2 ^ 32 := by
      simp only [UInt32.size]
      omega
    exact Nat.xor_lt_two_pow front (Nat.mod_lt _ (by decide))
  rw [fold32, UInt64.toNat_toUInt32, UInt64.toNat_xor, high, low]
  exact Nat.mod_eq_of_lt fits

end AxisGrid.Fingerprint.Fnv1a
