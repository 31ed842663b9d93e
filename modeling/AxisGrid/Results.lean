import AxisGrid.Json.Decode
import AxisGrid.Json.Write
import AxisGrid.Point.Identifier
import AxisGrid.Point.Order

/-!
Points as JSON, and tables of results by point. A point is the string of its identifier, so it can
be a key; reading a key reports the same events as reading an identifier.
-/

namespace AxisGrid

open Json

namespace Point

def toDocument (p : Point) : Document := .text p.identifier

def toJson (p : Point) : String := p.toDocument.toText

/-- The point that a text in JSON identifies. -/
def ofText (text : String) : Report DecodeError Point :=
  (parseReport .canonical text).mapError fun e => .data (.point e)

def ofDocument (d : Document) : Report DecodeError Point := do
  ofText (← Report.quiet (d.string "a canonical combination string"))

def ofJson (text : String) : Report DecodeError Point := decode ofDocument text

end Point

/-- A number for each of finitely many points, ascending by point. -/
abbrev Results := Table Point UInt32

namespace Results

def toDocument (r : Results) : Document :=
  .record (r.entries.map fun e => (e.1.identifier, .natural e.2.toNat))

def toJson (r : Results) : String := (toDocument r).toText

/-- Takes one result; a later result for the same point replaces an earlier one. -/
def member (r : Results) (key : String) (d : Document) : Report DecodeError Results := do
  let point ← Point.ofText key
  return r.insert point (← Report.quiet d.natural32)

def ofDocument (d : Document) : Report DecodeError Results :=
  match d with
  | .object entries closed => Document.members member .empty entries closed
  | d => .quiet (.error (mismatch d.kind? "a map"))

def ofJson (text : String) : Report DecodeError Results := decode ofDocument text

end Results

end AxisGrid
