import Parley.Component.Direction
import Parley.Record.Basic

/-!
# Motion

A character's motion is the set of directions it walks in and the direction it faces. Walking
in a set that does not hold the heading turns the character to the first direction of the set;
stopping empties the set and keeps the heading. Saving writes the bits of the set under `dir`
and the bit of the heading under `heading`.
-/

namespace Parley

/-- The directions walked in and the direction faced. -/
structure Motion where
  direction : Directions
  heading : Direction
  deriving DecidableEq, Repr, Inhabited

namespace Motion

/-- Standing still, facing `heading`. -/
def standing (heading : Direction) : Motion := ⟨Directions.empty, heading⟩

/-- Walk in the given directions, turning to the first of them unless one is the heading. -/
def setDirection (m : Motion) (d : Directions) : Motion :=
  let heading :=
    if !d.isEmpty && !d.contains m.heading then d.toList.headD m.heading else m.heading
  ⟨d, heading⟩

/-- Stop walking; the heading stays. -/
def stop (m : Motion) : Motion := { m with direction := Directions.empty }

def isMoving (m : Motion) : Bool := !m.direction.isEmpty

/-- Write the walking set and the heading into a record. -/
def save (m : Motion) (r : Record) : Record :=
  (r.putNat "dir" m.direction.bits).putNat "heading" m.heading.bit

/-- Read a motion back. The walking set must fit 16 bits and then name directions only; the
heading must fit 16 bits and then be a single direction. -/
def restore (r : Record) : Except Record.Error Motion := do
  let dir := (← r.getUInt16 "dir").toNat
  let direction ← match Directions.ofBits? dir with
    | some d => pure d
    | none => throw (.outOfRange "dir" dir "direction flags")
  let heading := (← r.getUInt16 "heading").toNat
  let heading ← match Direction.ofBit? heading with
    | some h => pure h
    | none => throw (.outOfRange "heading" heading "a single direction")
  pure ⟨direction, heading⟩

end Motion

end Parley
