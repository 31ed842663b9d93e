import AxisGrid.Fingerprint.Fnv1a
import AxisGrid.Fingerprint.Sha256
import AxisGrid.Text.Encoding
import AxisGrid.Text.Hex

/-!
Short fingerprints of texts: eight hexadecimal digits that depend on the text alone
(`length_ofText`). They name files and cache entries and protect nothing.
-/

namespace AxisGrid

inductive Fingerprint
  | sha256
  | fnv1a
  deriving DecidableEq, Repr

namespace Fingerprint

/-- The first four bytes of the SHA-256 digest. -/
def shortSha256 (text : String) : String :=
  String.ofList (Text.Hex.ofBytes ((Sha256.digest (Text.utf8 text)).take 4))

/-- The FNV-1a hash, folded to half its width. -/
def shortFnv1a (text : String) : String :=
  String.ofList (Text.Hex.fixed 8 (Fnv1a.fold32 (Fnv1a.hash (Text.utf8 text))).toNat)

def ofText : Fingerprint → String → String
  | .sha256 => shortSha256
  | .fnv1a => shortFnv1a

/-- The name that selects a fingerprint in a settings file. -/
def name : Fingerprint → String
  | .sha256 => "sha256"
  | .fnv1a => "fnv1a"

def ofName? (name : String) : Option Fingerprint :=
  if name = "sha256" then some .sha256
  else if name = "fnv1a" then some .fnv1a
  else none

theorem length_ofText (f : Fingerprint) (text : String) : (f.ofText text).toList.length = 8 := by
  cases f with
  | sha256 => simp [ofText, shortSha256, Text.Hex.length_ofBytes]
  | fnv1a => simp [ofText, shortFnv1a]

end Fingerprint

end AxisGrid
