import AxisGrid.Fingerprint
import AxisGrid.Text.Quoted

/-!
How points are written. A format is usable when its two separators differ and neither occurs in the
reserved name of the empty point (`check_eq_ok_iff`).
-/

namespace AxisGrid

/-- The separators of written points and the fingerprint to take of them. -/
structure Format where
  entrySep : Char := ','
  pairSep : Char := '='
  fingerprint : Fingerprint := .sha256
  deriving DecidableEq, Repr

inductive FormatError
  | equalSeparators (separator : Char)
  | reservedSeparator (separator : Char)
  deriving DecidableEq, Repr

namespace Format

def canonical : Format := {}

/-- The written form of the empty point. -/
def reservedName : String := "default"

/-- Refuses equal separators first, then the first separator that the reserved name holds. -/
def check (f : Format) : Except FormatError Unit :=
  if f.entrySep = f.pairSep then .error (.equalSeparators f.entrySep)
  else
    match [f.entrySep, f.pairSep].find? (reservedName.toList.contains ·) with
    | some separator => .error (.reservedSeparator separator)
    | none => .ok ()

theorem check_eq_ok_iff {f : Format} :
    f.check = .ok () ↔ f.entrySep ≠ f.pairSep ∧ f.entrySep ∉ reservedName.toList ∧
      f.pairSep ∉ reservedName.toList := by
  by_cases same : f.entrySep = f.pairSep
  · simp [check, same]
  · by_cases entry : f.entrySep ∈ reservedName.toList
    · simp [check, same, entry]
    · by_cases pair : f.pairSep ∈ reservedName.toList
      · simp [check, same, entry, pair]
      · simp [check, same, entry, pair]

end Format

namespace FormatError

def message : FormatError → String
  | equalSeparators separator =>
    "entry and pair separators must differ (both " ++ Text.Quoted.ofChar separator ++ ")"
  | reservedSeparator separator =>
    "separator " ++ Text.Quoted.ofChar separator ++ " occurs in the reserved name "
      ++ Text.Quoted.ofString Format.reservedName

end FormatError

end AxisGrid
