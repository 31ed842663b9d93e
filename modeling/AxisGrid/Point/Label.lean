import AxisGrid.Point.Identifier

/-!
Texts for display. They need not be read back: a lone value may stand without its name, and the
compact form drops every name that its value does not need.
-/

namespace AxisGrid.Point

/-- The entries for a row of axes, or the first axis without a value. -/
def entriesFor (p : Point) (axes : List Axis) : Except PointError (List (String × String)) :=
  axes.mapM fun a =>
    match p.get? a.name with
    | some value => .ok (a.name, value)
    | none => .error (.missingValue a.name)

/-- Writes the entries for a row of axes, in its order. One entry asked for by one axis stands as
the bare value, whatever the axis; no axes at all are written as the reserved name. -/
def labelFor (p : Point) (axes : List Axis) : Except PointError String :=
  match p.entries, axes with
  | [(_, value)], [_] => .ok value
  | _, [] => .ok Format.reservedName
  | _, _ => (p.entriesFor axes).map (writeEntries ',' '=')

/-- Writes a value behind its name if axes of the grid declare it more than once, else bare. -/
def compactToken (g : Grid) (entry : String × String) : List Char :=
  if 1 < (g.axes.flatMap (·.values)).count entry.2 then entry.1.toList ++ '=' :: entry.2.toList
  else entry.2.toList

/-- Writes the entries of a point by name, without the names that the grid makes needless. -/
def compactLabel (p : Point) (g : Grid) : String :=
  if p.isEmpty then Format.reservedName
  else String.ofList ([','].intercalate (p.entries.map (compactToken g)))

end AxisGrid.Point
