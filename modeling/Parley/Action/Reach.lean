import Parley.Component.Direction
import Parley.Component.Position
import Parley.Binary.ArcCosine

/-!
# Areas of effect

An action reaches the points within a circular sector in front of the actor: no farther than
`radius`, and at most half of `arc` degrees away from the heading. The actor's own point is
always reached. Everything is computed in single precision: the offset, its length, the cosine
of the angle to the heading, clamped to `[-1, 1]`, and the angle in degrees, which may exceed
half the arc by the single precision epsilon. A NaN anywhere reaches nothing.
-/

namespace Parley

/-- A sector: its opening in degrees and its radius. -/
structure AreaOfEffect where
  arc : UInt16
  radius : UInt32
  deriving DecidableEq, Repr

namespace AreaOfEffect

/-- The area of every action: 120 degrees wide, 30 units deep. -/
def standard : AreaOfEffect := ⟨120, 30⟩

/-- Degrees in a radian, rounded to a single. -/
def degreesPerRadian : Binary32 :=
  Binary32.round false 572957795130823208767981548141051703 (Nat.pow 10 34) 0

/-- The unit vector of a heading, with North toward negative `y`. -/
def unit : Direction → Binary32 × Binary32
  | .west => (Binary32.ofNat 1 |>.neg, Binary32.zero)
  | .east => (Binary32.ofNat 1, Binary32.zero)
  | .north => (Binary32.zero, Binary32.ofNat 1 |>.neg)
  | .south => (Binary32.zero, Binary32.ofNat 1)

/-- Whether the area, placed at `origin` facing `heading`, reaches `point`. -/
def contains (a : AreaOfEffect) (origin : Position) (heading : Direction) (point : Position) :
    Bool :=
  let dx := point.x - origin.x
  let dy := point.y - origin.y
  let distance := (dx * dx + dy * dy).sqrt
  if distance.eqNum Binary32.zero then true
  else if (Binary32.ofNat a.radius.toNat).lt distance then false
  else
    let (hx, hy) := unit heading
    let one := Binary32.ofNat 1
    let cos := ((dx * hx + dy * hy) / distance).clamp one.neg one
    let angle := cos.acos * degreesPerRadian
    angle.le (Binary32.ofNat a.arc.toNat / Binary32.ofNat 2 + Binary32.epsilon)

end AreaOfEffect

end Parley
