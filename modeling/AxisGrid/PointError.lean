import AxisGrid.Format

/-!
What is wrong with a point: with its making, its text or its place in a grid.
-/

namespace AxisGrid

/-- Why a point cannot be made, read or numbered. -/
inductive PointError
  | valueCountMismatch (expected actual : Nat)
  | unreadable (text : String)
  | missingValue (axis : String)
  | unknownValue (axis value : String)
  | indexOutOfRange (index count : Nat)
  | indexOverflow
  | invalidFormat (cause : FormatError)
  deriving DecidableEq, Repr

namespace PointError

def message : PointError → String
  | valueCountMismatch expected actual =>
    "expected " ++ toString expected ++ " values for the axis list, got " ++ toString actual
  | unreadable text => "cannot parse " ++ text
  | missingValue axis => "no value for axis " ++ axis
  | unknownValue axis value =>
    "value " ++ Text.Quoted.ofString value ++ " is not defined on axis " ++ axis
  | indexOutOfRange index count =>
    "index " ++ toString index ++ " is outside the " ++ toString count
      ++ " combinations of the axis list"
  | indexOverflow => "combination index does not fit in usize"
  | invalidFormat cause => "invalid format config: " ++ cause.message

end PointError

end AxisGrid
