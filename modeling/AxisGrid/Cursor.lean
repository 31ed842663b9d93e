import AxisGrid.Grid.Index

/-!
A walk over the points of a grid in the order of their indexes. A cursor knows how many points
there are and how many it has passed; what it passes is not kept.
-/

namespace AxisGrid

structure Cursor where
  grid : Grid
  position : Nat
  total : Nat
  deriving DecidableEq

namespace Cursor

/-- The cursor before the first point, if the points can be counted. -/
def start (g : Grid) : Except PointError Cursor :=
  match g.count? with
  | none => .error .indexOverflow
  | some count => .ok ⟨g, 0, count⟩

def remaining (c : Cursor) : Nat := c.total - c.position

def next (c : Cursor) : Option Point × Cursor :=
  if c.total ≤ c.position then (none, c)
  else (some (c.grid.pointAt c.position), { c with position := c.position + 1 })

/-- Passes `count` points, or all that remain if there are fewer. -/
def skip (c : Cursor) (count : Nat) : Cursor :=
  { c with position := c.position + min count c.remaining }

def nth (c : Cursor) (count : Nat) : Option Point × Cursor := (c.skip count).next

def take (c : Cursor) : Nat → List Point × Cursor
  | 0 => ([], c)
  | count + 1 =>
    match c.next with
    | (none, after) => ([], after)
    | (some point, after) =>
      let (points, rest) := after.take count
      (point :: points, rest)

def finish (c : Cursor) : Cursor := c.skip c.remaining

/-- Takes the last point and passes all others. -/
def last (c : Cursor) : Option Point × Cursor :=
  if c.remaining = 0 then (none, c) else c.nth (c.remaining - 1)

end Cursor

inductive Cursor.Command
  | next
  | nth (count : Nat)
  | take (count : Nat)
  | length
  | bounds
  | last
  | count
  | save
  | restore
  deriving DecidableEq, Repr

inductive Cursor.Answer
  | point (found : Option Point)
  | points (found : List Point)
  | amount (count : Nat)
  | bounds (lower upper : Nat)
  | done
  deriving DecidableEq

/-- A walk with a second cursor that was put aside. -/
structure Cursor.Session where
  live : Cursor
  saved : Cursor
  deriving DecidableEq

namespace Cursor.Session

/-- A fresh walk; the cursor put aside is as fresh. -/
def start (g : Grid) : Except PointError Session :=
  (Cursor.start g).map fun c => ⟨c, c⟩

def step (s : Session) : Command → Answer × Session
  | .next => (.point s.live.next.1, { s with live := s.live.next.2 })
  | .nth count => (.point (s.live.nth count).1, { s with live := (s.live.nth count).2 })
  | .take count => (.points (s.live.take count).1, { s with live := (s.live.take count).2 })
  | .length => (.amount s.live.remaining, s)
  | .bounds => (.bounds s.live.remaining s.live.remaining, s)
  | .last => (.point s.live.last.1, { s with live := s.live.last.2 })
  | .count => (.amount s.live.remaining, { s with live := s.live.finish })
  | .save => (.done, { s with saved := s.live })
  | .restore => (.done, { s with live := s.saved })

def run (s : Session) : List Command → List Answer × Session
  | [] => ([], s)
  | command :: rest =>
    let (answer, after) := s.step command
    let (answers, final) := after.run rest
    (answer :: answers, final)

end Cursor.Session

namespace Grid

/-- All points of a grid, ascending by index. -/
def points (g : Grid) : Except PointError (List Point) :=
  (Cursor.start g).map fun c => (c.take c.total).1

end Grid

end AxisGrid
