import AxisGrid.Grid
import AxisGrid.PointError
import AxisGrid.Table

/-!
A point binds axis names to values. It stands for itself, without a grid: its entries are kept
ascending by name, whatever the order in which they were given.
-/

namespace AxisGrid

/-- A finite map from axis names to values. -/
structure Point where
  table : Table String String
  deriving DecidableEq

namespace Point

def empty : Point := ⟨.empty⟩

instance : Inhabited Point := ⟨empty⟩

/-- The point of a list of pairs, the last pair of a name winning. -/
def ofPairs (pairs : List (String × String)) : Point := ⟨.ofList pairs⟩

/-- Binds the axes of a grid, in grid order, to as many values. -/
def ofValues (g : Grid) (values : List String) : Except PointError Point :=
  if values.length = g.axes.length then .ok (ofPairs (g.names.zip values))
  else .error (.valueCountMismatch g.axes.length values.length)

def entries (p : Point) : List (String × String) := p.table.entries

def size (p : Point) : Nat := p.table.size

def isEmpty (p : Point) : Bool := p.table.entries.isEmpty

def names (p : Point) : List String := p.table.keys

def get? (p : Point) (name : String) : Option String := p.table.get? name

def contains (p : Point) (name : String) : Bool := p.table.contains name

/-- The values for a row of axes, in the order of the row. -/
def values (p : Point) (axes : List Axis) : List (Option String) :=
  axes.map fun a => p.get? a.name

/-- Binds every pair in turn on top of the entries. -/
def override (p : Point) (pairs : List (String × String)) : Point := ⟨p.table.insertAll pairs⟩

def restrict (p : Point) (names : List String) : Point := ⟨p.table.filterKeys names.contains⟩

end Point

end AxisGrid
