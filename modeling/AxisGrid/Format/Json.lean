import AxisGrid.Json.Decode
import AxisGrid.Json.Write

/-!
Formats and fingerprints as JSON. A fingerprint is its name, also as the only member of an object
with no value. A format is an object of which every member may be left out, or an array of which
the last items may be.
-/

namespace AxisGrid

open Json

namespace Fingerprint

def toDocument (f : Fingerprint) : Document := .text f.name

def toJson (f : Fingerprint) : String := f.toDocument.toText

def ofVariant (name : String) : Except DecodeError Fingerprint :=
  match ofName? name with
  | some f => .ok f
  | none => .error (.data (.unknownVariant name "\x60sha256\x60 or \x60fnv1a\x60"))

def ofDocument (d : Document) : Except DecodeError Fingerprint :=
  match d with
  | .atom (.string (some name)) => ofVariant name
  | .object ((some name, value) :: rest) closed => do
    let f ← ofVariant name
    value.unit
    if closed ∧ rest.isEmpty then .ok f else .error .malformed
  | _ => .error .malformed

def ofJson (text : String) : Except DecodeError Fingerprint := decode ofDocument text

end Fingerprint

namespace Format

def toDocument (f : Format) : Document :=
  .record
    [("entry_separator", .text f.entrySep.toString), ("pair_separator", .text f.pairSep.toString),
      ("digest", f.fingerprint.toDocument)]

def toJson (f : Format) : String := f.toDocument.toText

structure Parts where
  entrySep : Option Char := none
  pairSep : Option Char := none
  fingerprint : Option Fingerprint := none

/-- The format of the parts, those not read being as in identifiers. -/
def ofParts (p : Parts) : Format :=
  ⟨p.entrySep.getD canonical.entrySep, p.pairSep.getD canonical.pairSep,
    p.fingerprint.getD canonical.fingerprint⟩

/-- Takes one member of a format; members of other names are passed over. -/
def member (p : Parts) (key : String) (d : Document) : Except DecodeError Parts :=
  if key = "entry_separator" then
    (Document.field key p.entrySep d.character).map ({ p with entrySep := · })
  else if key = "pair_separator" then
    (Document.field key p.pairSep d.character).map ({ p with pairSep := · })
  else if key = "digest" then
    (Document.field key p.fingerprint (Fingerprint.ofDocument d)).map ({ p with fingerprint := · })
  else .ok p

/-- The members that the items of an array stand for, in order. -/
def memberNames : List String := ["entry_separator", "pair_separator", "digest"]

def ofDocument (d : Document) : Except DecodeError Format :=
  match d with
  | .array items closed => do
    let parts ← Document.members member {} ((memberNames.map some).zip items) true
    if closed ∧ items.length ≤ memberNames.length then .ok (ofParts parts) else .error .malformed
  | .object entries closed => (Document.members member {} entries closed).map ofParts
  | d => .error (mismatch d.kind? "struct FormatConfig")

def ofJson (text : String) : Except DecodeError Format := decode ofDocument text

end Format

end AxisGrid
