/-!
SHA-256 of a row of bytes: the padded message is cut into blocks of sixteen words, and each block
changes a state of eight words. The digest is the final state, thirty-two bytes (`length_digest`).
-/

namespace AxisGrid.Fingerprint.Sha256

structure State where
  a : UInt32
  b : UInt32
  c : UInt32
  d : UInt32
  e : UInt32
  f : UInt32
  g : UInt32
  h : UInt32

namespace State

/-- The fractional parts of the square roots of the first eight primes. -/
def initial : State :=
  ⟨0x6a09e667, 0xbb67ae85, 0x3c6ef372, 0xa54ff53a, 0x510e527f, 0x9b05688c, 0x1f83d9ab, 0x5be0cd19⟩

def add (s t : State) : State :=
  ⟨s.a + t.a, s.b + t.b, s.c + t.c, s.d + t.d, s.e + t.e, s.f + t.f, s.g + t.g, s.h + t.h⟩

def words (s : State) : List UInt32 :=
  [s.a, s.b, s.c, s.d, s.e, s.f, s.g, s.h]

end State

/-- The fractional parts of the cube roots of the first sixty-four primes. -/
def roundConstants : List UInt32 :=
  [0x428a2f98, 0x71374491, 0xb5c0fbcf, 0xe9b5dba5, 0x3956c25b, 0x59f111f1, 0x923f82a4, 0xab1c5ed5,
    0xd807aa98, 0x12835b01, 0x243185be, 0x550c7dc3, 0x72be5d74, 0x80deb1fe, 0x9bdc06a7, 0xc19bf174,
    0xe49b69c1, 0xefbe4786, 0x0fc19dc6, 0x240ca1cc, 0x2de92c6f, 0x4a7484aa, 0x5cb0a9dc, 0x76f988da,
    0x983e5152, 0xa831c66d, 0xb00327c8, 0xbf597fc7, 0xc6e00bf3, 0xd5a79147, 0x06ca6351, 0x14292967,
    0x27b70a85, 0x2e1b2138, 0x4d2c6dfc, 0x53380d13, 0x650a7354, 0x766a0abb, 0x81c2c92e, 0x92722c85,
    0xa2bfe8a1, 0xa81a664b, 0xc24b8b70, 0xc76c51a3, 0xd192e819, 0xd6990624, 0xf40e3585, 0x106aa070,
    0x19a4c116, 0x1e376c08, 0x2748774c, 0x34b0bcb5, 0x391c0cb3, 0x4ed8aa4a, 0x5b9cca4f, 0x682e6ff3,
    0x748f82ee, 0x78a5636f, 0x84c87814, 0x8cc70208, 0x90befffa, 0xa4506ceb, 0xbef9a3f7, 0xc67178f2]

def rotateRight (x : UInt32) (n : UInt32) : UInt32 :=
  (x >>> n) ||| (x <<< (32 - n))

/-- Takes the lower-case sigma of the schedule: two rotations and one shift. -/
def spread (r s t : UInt32) (x : UInt32) : UInt32 :=
  rotateRight x r ^^^ rotateRight x s ^^^ (x >>> t)

/-- Takes the upper-case sigma of a round: three rotations. -/
def stir (r s t : UInt32) (x : UInt32) : UInt32 :=
  rotateRight x r ^^^ rotateRight x s ^^^ rotateRight x t

/-- The next word of the schedule, from the sixteen words before it. -/
def nextWord (w : Array UInt32) : UInt32 :=
  let back (k : Nat) := w.getD (w.size - k) 0
  spread 17 19 10 (back 2) + back 7 + spread 7 18 3 (back 15) + back 16

/-- The sixteen words of a block and the forty-eight that follow from them. -/
def schedule (block : Array UInt32) : Array UInt32 :=
  (List.range 48).foldl (fun w _ => w.push (nextWord w)) block

def round (s : State) (k w : UInt32) : State :=
  let choice := (s.e &&& s.f) ^^^ (~~~s.e &&& s.g)
  let majority := (s.a &&& s.b) ^^^ (s.a &&& s.c) ^^^ (s.b &&& s.c)
  let t := s.h + stir 6 11 25 s.e + choice + k + w
  ⟨t + stir 2 13 22 s.a + majority, s.a, s.b, s.c, s.d + t, s.e, s.f, s.g⟩

/-- Sixty-four rounds, added to the state before them. -/
def compress (s : State) (block : Array UInt32) : State :=
  s.add ((roundConstants.zip (schedule block).toList).foldl (fun t kw => round t kw.1 kw.2) s)

/-- The bytes of a number, most significant first, `count` of them. -/
def bigEndian : Nat → Nat → List UInt8
  | 0, _ => []
  | count + 1, n => bigEndian count (n / 256) ++ [UInt8.ofNat n]

/-- A set bit, zeros up to eight bytes below a whole block, and the length in bits. -/
def pad (bytes : List UInt8) : List UInt8 :=
  bytes ++ 0x80 :: List.replicate ((119 - bytes.length % 64) % 64) 0
    ++ bigEndian 8 (8 * bytes.length)

def wordsOf : List UInt8 → List UInt32
  | a :: b :: c :: d :: rest =>
    ((a.toUInt32 <<< 24) ||| (b.toUInt32 <<< 16) ||| (c.toUInt32 <<< 8) ||| d.toUInt32)
      :: wordsOf rest
  | _ => []

def blocksOf (words : List UInt32) : List (Array UInt32) :=
  if _h : 16 ≤ words.length then
    (words.take 16).toArray :: blocksOf (words.drop 16)
  else []
termination_by words.length
decreasing_by simp only [List.length_drop]; omega

def digest (bytes : List UInt8) : List UInt8 :=
  ((blocksOf (wordsOf (pad bytes))).foldl compress State.initial).words.flatMap
    fun w => bigEndian 4 w.toNat

@[simp]
theorem length_bigEndian (count n : Nat) : (bigEndian count n).length = count := by
  induction count generalizing n with
  | zero => rfl
  | succ k ih => simp [bigEndian, ih]

@[simp]
theorem length_digest (bytes : List UInt8) : (digest bytes).length = 32 := by
  simp [digest, State.words]

end AxisGrid.Fingerprint.Sha256
