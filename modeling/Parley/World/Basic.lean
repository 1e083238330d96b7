import Parley.Config.Interaction
import Parley.Orientation
import Parley.Stage
import Parley.World.Bus
import Parley.World.Entity

/-!
# The world

The world holds the entities, the event bus, the presentation, the interaction settings, the
table of interactions in progress and the tick count. Identifiers of dialogs, signals and
sessions are drawn from `supply`, which only grows.

An interaction in progress is tracked from its start until its ending is delivered, with the
number of its bus registration, its completion signal, its dialog, its two parties and the tick
it started at. The table keeps the order in which interactions started.
-/

namespace Parley

/-- An interaction in progress, as the world tracks it. -/
structure Tracked where
  registration : Nat
  signal : Signal
  dialog : DialogId
  initiator : Entity
  target : Entity
  startedAt : Nat
  deriving DecidableEq, Repr

/-- The whole state of the world. -/
structure World where
  entities : Entities
  bus : Bus
  stage : Stage
  settings : InteractionSettings
  sessions : List (SessionId × Tracked)
  tick : Nat
  supply : Nat

namespace World

/-- A world without entities, at tick zero. -/
def new (stage : Stage) (settings : InteractionSettings) : World :=
  ⟨Entities.empty, Bus.empty, stage, settings, [], 0, 0⟩

/-- Draw a fresh identifier. -/
def mint (w : World) : Nat × World := (w.supply, { w with supply := w.supply + 1 })

/-- Announce an event. -/
def publish (w : World) (e : Event) : World := { w with bus := w.bus.publish e }

/-- Spawn an entity. -/
def spawn (w : World) (b : Body) : Entity × World :=
  let (e, es) := w.entities.spawn b
  (e, { w with entities := es })

/-- Despawn a live entity and announce it; `false` when it was not alive. -/
def despawn (w : World) (e : Entity) : Bool × World :=
  match w.entities.despawn e with
  | some es => (true, { w with entities := es }.publish (.entityDespawned e))
  | none => (false, w)

def body? (w : World) (e : Entity) : Option Body := w.entities.get? e

/-- Change the body of a live entity. -/
def modifyBody (w : World) (e : Entity) (f : Body → Body) : World :=
  { w with entities := w.entities.modify e f }

/-- Resume or suspend the schedule of an entity; nothing happens without one. -/
def setScheduleActive (w : World) (e : Entity) (active : Bool) : World :=
  w.modifyBody e fun b => { b with schedule := b.schedule.map (·.setActive active) }

/-- Turn `observer` toward `target`: it needs both positions and a motion of the observer, and
nothing happens when they stand on the same ground position. -/
def face (w : World) (observer target : Entity) : World :=
  match (w.body? observer).bind (·.position), (w.body? target).bind (·.position) with
  | some source, some dest =>
    match directionBetween source dest with
    | some d => w.modifyBody observer fun b => { b with motion := b.motion.map fun m => { m with heading := d } }
    | none => w
  | _, _ => w

/-- Whether an interaction is tracked. -/
def isInteractionActive (w : World) (s : SessionId) : Bool := w.sessions.any (·.1 == s)

/-- The number of interactions tracked. -/
def activeSessions (w : World) : Nat := w.sessions.length

end World

end Parley
