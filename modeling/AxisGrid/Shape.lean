import AxisGrid.Cursor

/-!
Grids written out as literal names and values. What is wrong with a literal is told together with
what was being built from it.
-/

namespace AxisGrid

/-- Names and values of axes, in grid order. -/
abbrev Shape := List (String × List String)

inductive ShapeError
  | invalidAxis (name : String) (cause : DeclarationError)
  | invalidGrid (cause : DeclarationError)
  | noAxis (name : String)
  | invalidPoint (cause : PointError)
  | uncountable (cause : PointError)
  deriving DecidableEq, Repr

namespace ShapeError

def message : ShapeError → String
  | invalidAxis name cause => "invalid axis " ++ name ++ ": " ++ cause.message
  | invalidGrid cause => "invalid axis list: " ++ cause.message
  | noAxis name => "no axis named " ++ name
  | invalidPoint cause => "cannot build combination: " ++ cause.message
  | uncountable cause => "cannot enumerate: " ++ cause.message

end ShapeError

namespace Shape

/-- The grid of a shape. All axes are declared, in order, before their names are compared. -/
def grid (shape : Shape) : Except ShapeError Grid := do
  let axes ← shape.mapM fun a => (Axis.declare a.1 a.2).mapError (.invalidAxis a.1)
  (Grid.ofAxes axes).mapError .invalidGrid

def axis (g : Grid) (name : String) : Except ShapeError Axis :=
  match g.find? name with
  | some a => .ok a
  | none => .error (.noAxis name)

def point (g : Grid) (values : List String) : Except ShapeError Point :=
  (Point.ofValues g values).mapError .invalidPoint

def points (g : Grid) : Except ShapeError (List Point) :=
  g.points.mapError .uncountable

end Shape

end AxisGrid
