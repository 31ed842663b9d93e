import AxisGrid.Point.Identifier

/-!
The points of a grid, numbered without gaps. An index is a mixed-radix number: the sizes of the
axes are the radices, the digits are the places of the values, first axis most significant.
-/

namespace AxisGrid.Grid

/-- Appends a digit to an index, if the result fits. -/
def pushDigit? (index radix digit : Nat) : Option Nat :=
  (Word.mul? index radix).bind (Word.add? · digit)

/-- Numbers a point over the axes that remain. An axis fails for want of a value first, then for a
value that it does not declare, then because the index grows too large. -/
def indexFrom (p : Point) (index : Nat) : List Axis → Report PointError Nat
  | [] => ⟨.ok index, [.indexed p.identifier index]⟩
  | a :: rest =>
    match p.get? a.name with
    | none => ⟨.error (.missingValue a.name), [.missing a.name p.identifier]⟩
    | some value =>
      match a.indexOf? value with
      | none => ⟨.error (.unknownValue a.name value), [.undeclared a.name value]⟩
      | some digit =>
        match pushDigit? index a.size digit with
        | none => .quiet (.error .indexOverflow)
        | some next => indexFrom p next rest

/-- The index of a point, with its events. Entries for other names are not looked at. -/
def indexReport (g : Grid) (p : Point) : Report PointError Nat := indexFrom p 0 g.axes

def index (g : Grid) (p : Point) : Except PointError Nat := (g.indexReport p).outcome

/-- Takes the digits of an index off its end, the last axis first. The first component is what
remains of the index, the second binds each axis to the value of its digit. -/
def peel (index : Nat) (axes : List Axis) : Nat × List (String × String) :=
  axes.foldr
    (fun a state =>
      (state.1 / a.size,
        match a.valueAt? (state.1 % a.size) with
        | some value => (a.name, value) :: state.2
        | none => state.2))
    (index, [])

/-- The point at an index that is in range. -/
def pointAt (g : Grid) (index : Nat) : Point := .ofPairs (peel index g.axes).2

def point (g : Grid) (index : Nat) : Except PointError Point :=
  match g.count? with
  | none => .error .indexOverflow
  | some count =>
    if index < count then .ok (g.pointAt index)
    else .error (.indexOutOfRange index count)

end AxisGrid.Grid
