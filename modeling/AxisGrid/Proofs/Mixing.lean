import AxisGrid.Fingerprint.Fnv1a
import Mathlib.Data.LawfulXor.Basic
import Mathlib.Logic.Function.Basic

/-! Nothing is lost in mixing. A byte that was xored in is taken out by the same xor, and the prime is odd, so it
has an inverse modulo the number of states. To mix the same bytes is therefore a permutation of the states, and
two states that one byte has set apart are never brought together again. -/
namespace AxisGrid.Fingerprint.Fnv1a

def primeInverse : UInt64 := 0xce965057aff6957b

/-- Takes a byte out of the state that it was mixed into. -/
def unstep (state : UInt64) (byte : UInt8) : UInt64 := (state * primeInverse) ^^^ byte.toUInt64

def unmix (state : UInt64) (bytes : List UInt8) : UInt64 := bytes.foldr (fun byte state => unstep state byte) state

theorem unmix_cons (state : UInt64) (byte : UInt8) (bytes : List UInt8) :
    unmix state (byte :: bytes) = unstep (unmix state bytes) byte := rfl

section Step

variable (state : UInt64) (byte : UInt8)

theorem mul_prime_mul_inverse : state * prime * primeInverse = state := by
  have inverse : prime * primeInverse = 1 := by decide
  rw [UInt64.mul_assoc, inverse, UInt64.mul_one]

theorem mul_inverse_mul_prime : state * primeInverse * prime = state := by
  have inverse : primeInverse * prime = 1 := by decide
  rw [UInt64.mul_assoc, inverse, UInt64.mul_one]

theorem unstep_step : unstep (step state byte) byte = state := by
  rw [unstep, step, mul_prime_mul_inverse, xor_cancel_right]

theorem step_unstep : step (unstep state byte) byte = state := by
  rw [unstep, step, xor_cancel_right, mul_inverse_mul_prime]

theorem step_inj {x y : UInt8} (same : step state x = step state y) : x = y := by
  have xored := congrArg (· * primeInverse) same
  simp only [step, mul_prime_mul_inverse, UInt64.xor_right_inj] at xored
  exact UInt8.toUInt64_inj.mp xored

end Step

section Run

variable (state : UInt64) (bytes : List UInt8)

theorem unmix_mix : unmix (mix state bytes) bytes = state := by
  induction bytes generalizing state with
  | nil => rfl
  | cons byte bytes ih =>
    rw [mix_cons, unmix_cons, ih, unstep_step]

theorem mix_unmix : mix (unmix state bytes) bytes = state := by
  induction bytes with
  | nil => rfl
  | cons byte bytes ih =>
    rw [mix_cons, unmix_cons, step_unstep, ih]

theorem mix_bijective : Function.Bijective fun state => mix state bytes :=
  Function.bijective_iff_has_inverse.mpr
    ⟨fun state => unmix state bytes, fun state => unmix_mix state bytes, fun state => mix_unmix state bytes⟩

theorem mix_single_byte_inj {before after : List UInt8} {x y : UInt8}
    (same : mix state (before ++ x :: after) = mix state (before ++ y :: after)) : x = y := by
  rw [mix_append, mix_append, mix_cons, mix_cons] at same
  exact step_inj _ ((mix_bijective after).injective same)

end Run

theorem split_of_single_difference {α : Type} {a b : List α} (lengths : a.length = b.length)
    (single : ∃! i : Nat, a[i]? ≠ b[i]?) :
    ∃ before x y after, x ≠ y ∧ a = before ++ x :: after ∧ b = before ++ y :: after := by
  obtain ⟨i, differ, only⟩ := single
  have inside : i < a.length := by
    by_contra beyond
    have behind : a.length ≤ i := Nat.le_of_not_lt beyond
    exact differ (by rw [List.getElem?_eq_none behind, List.getElem?_eq_none (lengths ▸ behind)])
  have inside' : i < b.length := lengths ▸ inside
  -- where they differ the second row is put in place of the first, which leaves nothing of the first behind
  have replaced : a.set i b[i] = b := by
    apply List.ext_getElem?
    intro j
    by_cases here : i = j
    · subst here
      rw [List.getElem?_set_self inside, List.getElem?_eq_getElem inside']
    · rw [List.getElem?_set_ne here]
      by_contra other
      exact here (only j other).symm
  obtain ⟨before, after, split, -, split'⟩ := @List.exists_of_set _ i b[i] a inside
  refine ⟨before, a[i], b[i], after, ?_, split, replaced ▸ split'⟩
  simpa [inside, inside'] using differ

/-- Chunks are mixed as their join is, the same bytes permute the states, and from no state do two rows of bytes
that differ at one place only lead to the same hash. -/
theorem mix_permutes_states :
    (∀ state a b, mix (mix state a) b = mix state (a ++ b)) ∧
    (∀ state (chunks : List (List UInt8)), chunks.foldl mix state = mix state chunks.flatten) ∧
    (∀ bytes, Function.Bijective fun state => mix state bytes) ∧
    ∀ state (a b : List UInt8), a.length = b.length → (∃! i : Nat, a[i]? ≠ b[i]?) → mix state a ≠ mix state b := by
  refine ⟨fun state a b => (mix_append state a b).symm, fun state chunks => ?_, mix_bijective, ?_⟩
  · exact List.foldl_flatten.symm
  · intro state a b lengths single same
    obtain ⟨before, x, y, after, apart, rfl, rfl⟩ := split_of_single_difference lengths single
    exact apart (mix_single_byte_inj state same)

theorem mix_permutes_states_first_byte :
    ([0x78, 0x3d, 0x31] : List UInt8).length = ([0x79, 0x3d, 0x31] : List UInt8).length ∧
      (∃! i : Nat, ([0x78, 0x3d, 0x31] : List UInt8)[i]? ≠ ([0x79, 0x3d, 0x31] : List UInt8)[i]?) ∧
      hash [0x78, 0x3d, 0x31] ≠ hash [0x79, 0x3d, 0x31] := by
  have lengths : ([0x78, 0x3d, 0x31] : List UInt8).length = ([0x79, 0x3d, 0x31] : List UInt8).length := rfl
  have single : ∃! i : Nat, ([0x78, 0x3d, 0x31] : List UInt8)[i]? ≠ ([0x79, 0x3d, 0x31] : List UInt8)[i]? := by
    refine ⟨0, by decide, fun i differ => ?_⟩
    cases i with
    | zero => rfl
    | succ i => exact absurd rfl differ
  obtain ⟨-, -, -, apart⟩ := mix_permutes_states
  exact ⟨lengths, single, apart offsetBasis _ _ lengths single⟩

end AxisGrid.Fingerprint.Fnv1a
