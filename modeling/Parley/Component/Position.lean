import Parley.Record.Basic

/-!
# Positions

A position is a point of single precision coordinates. The distance between two positions is
measured in the ground plane, from `x` and `y` alone, in single precision. Saving writes the
three coordinates as doubles under `x`, `y` and `z`; restoring reads each back, taking an integer
too, and rounds it to a single.
-/

namespace Parley

/-- A point of the world. -/
structure Position where
  x : Binary32
  y : Binary32
  z : Binary32
  deriving DecidableEq, Repr, Inhabited

namespace Position

/-- The origin. -/
def origin : Position := ⟨Binary32.zero, Binary32.zero, Binary32.zero⟩

/-- The distance in the ground plane: the root of the sum of the squared differences. -/
def distance (a b : Position) : Binary32 :=
  let dx := b.x - a.x
  let dy := b.y - a.y
  (dx * dx + dy * dy).sqrt

/-- Write the coordinates into a record. -/
def save (p : Position) (r : Record) : Record :=
  ((r.putSingle "x" p.x).putSingle "y" p.y).putSingle "z" p.z

/-- Read a position back, `x` first. -/
def restore (r : Record) : Except Record.Error Position := do
  let x ← r.getSingle "x"
  let y ← r.getSingle "y"
  let z ← r.getSingle "z"
  pure ⟨x, y, z⟩

end Position

end Parley
