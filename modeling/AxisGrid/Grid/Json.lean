import AxisGrid.Grid
import AxisGrid.Json.Decode
import AxisGrid.Json.Write

/-!
Axes and grids as JSON: an axis is an object of its name and its values, a grid the array of its
axes. Reading declares the axes anew, each as soon as it is closed, and the grid at the end.
-/

namespace AxisGrid

open Json

namespace Axis

def toDocument (a : Axis) : Document :=
  .record [("name", .text a.name), ("values", .list (a.values.map .text))]

def toJson (a : Axis) : String := a.toDocument.toText

def nameOf (d : Document) : Except DecodeError String := d.string "a string"

def valuesOf (d : Document) : Except DecodeError (List String) := d.items (·.string "a string")

/-- Takes one member of an axis; members of other names are passed over. -/
def member (state : Option String × Option (List String)) (key : String) (d : Document) :
    Except DecodeError (Option String × Option (List String)) :=
  if key = "name" then (Document.field key state.1 (nameOf d)).map (·, state.2)
  else if key = "values" then (Document.field key state.2 (valuesOf d)).map (state.1, ·)
  else .ok state

/-- The item at a place of an array that ends there too early otherwise. -/
def itemAt (items : List Document) (closed : Bool) (place : Nat) : Except DecodeError Document :=
  match items[place]? with
  | some d => .ok d
  | none =>
    if closed then
      .error (.data (.invalidLength place "struct RawAxis with 2 elements"))
    else .error .malformed

/-- The name and the values of a document, as the members of an object or in an array of both. -/
def parts (d : Document) : Except DecodeError (String × List String) :=
  match d with
  | .array items closed => do
    let name ← nameOf (← itemAt items closed 0)
    let values ← valuesOf (← itemAt items closed 1)
    if closed ∧ items.length = 2 then .ok (name, values) else .error .malformed
  | .object entries closed => do
    match ← Document.members member (none, none) entries closed with
    | (none, _) => .error (.data (.missingField "name"))
    | (_, none) => .error (.data (.missingField "values"))
    | (some name, some values) => .ok (name, values)
  | d => .error (mismatch d.kind? "struct RawAxis")

def ofDocument (d : Document) : Except DecodeError Axis := do
  let (name, values) ← parts d
  (declare name values).mapError fun e => .data (.declaration e)

def ofJson (text : String) : Except DecodeError Axis := decode ofDocument text

end Axis

namespace Grid

def toDocument (g : Grid) : Document := .list (g.axes.map Axis.toDocument)

def toJson (g : Grid) : String := g.toDocument.toText

def ofDocument (d : Document) : Except DecodeError Grid := do
  (ofAxes (← d.items Axis.ofDocument)).mapError fun e => .data (.declaration e)

def ofJson (text : String) : Except DecodeError Grid := decode ofDocument text

end Grid

end AxisGrid
