import AxisGrid.Text.Quoted

/-!
What is wrong with declared axes.
-/

namespace AxisGrid

/-- Why an axis or a list of axes cannot be declared. -/
inductive DeclarationError
  | emptyName
  | duplicateValue (axis value : String)
  | duplicateAxis (name : String)
  deriving DecidableEq, Repr

namespace DeclarationError

def message : DeclarationError → String
  | emptyName => "axis name must not be empty"
  | duplicateValue axis value =>
    "duplicate value " ++ Text.Quoted.ofString value ++ " on axis " ++ axis
  | duplicateAxis name => "duplicate axis " ++ name

end DeclarationError

end AxisGrid
