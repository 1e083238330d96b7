import Parley.World.Basic

/-!
# Cast members

A cast member describes a character to spawn: its mind, where it stands in the ground plane,
where it faces and the manager of its schedule. Spawning gives the entity a mind, a position at
height zero, a motion standing on the heading and a running schedule.
-/

namespace Parley

/-- A character to spawn. -/
structure CastMember where
  id : String
  name : String
  dialogue : String := ""
  color : UInt32 := Mind.defaultColor
  portrait : Option String := none
  position : Binary32 × Binary32 := (Binary32.zero, Binary32.zero)
  heading : Direction := .south
  manager : String := Schedule.idleManager
  deriving DecidableEq, Repr

namespace CastMember

/-- The mind of the member. -/
def mind (c : CastMember) : Mind := ⟨c.id, c.name, c.dialogue, c.color, c.portrait⟩

/-- The parts of a freshly spawned member. -/
def body (c : CastMember) : Body :=
  { mind := some c.mind
    position := some ⟨c.position.1, c.position.2, Binary32.zero⟩
    motion := some (Motion.standing c.heading)
    schedule := some (Schedule.new c.manager) }

/-- Spawn the member into the world. -/
def spawn (c : CastMember) (w : World) : Entity × World := w.spawn c.body

end CastMember

end Parley
