import Parley.Component.Direction
import Parley.Component.Position

/-!
# Facing

A character turns toward another along the dominant axis of the offset between them: East or
West when the horizontal offset is at least as large as the vertical one, else South or North,
with South toward growing `y`. There is no direction between two points of the same ground
position. A NaN offset compares false, so it never wins the horizontal test.
-/

namespace Parley

/-- The direction from one point to another, if they differ in the ground plane. -/
def directionBetween (source target : Position) : Option Direction :=
  let dx := target.x - source.x
  let dy := target.y - source.y
  if dx.eqNum Binary32.zero && dy.eqNum Binary32.zero then none
  else if dy.abs.le dx.abs then some (if Binary32.zero.lt dx then .east else .west)
  else some (if Binary32.zero.lt dy then .south else .north)

end Parley
