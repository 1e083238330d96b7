import Parley.Component.Mind
import Parley.Component.Motion
import Parley.Component.Position
import Parley.Component.Schedule
import Parley.World.Event

/-!
# Entities

An entity carries any of four parts: a mind, a position, a motion and a schedule. The store
keeps every entity ever spawned in spawn order, a despawned one as an empty slot, so an entity
is alive exactly when its slot is filled, and a despawned entity never comes back.
-/

namespace Parley

/-- The parts an entity carries. -/
structure Body where
  mind : Option Mind := none
  position : Option Position := none
  motion : Option Motion := none
  schedule : Option Schedule := none
  deriving DecidableEq, Repr, Inhabited

/-- Every spawned entity in spawn order; `none` once despawned. -/
structure Entities where
  slots : Array (Option Body)
  deriving DecidableEq, Repr

namespace Entities

def empty : Entities := ⟨#[]⟩

/-- Spawn an entity carrying a body; it is numbered by the count of earlier spawns. -/
def spawn (es : Entities) (b : Body) : Entity × Entities :=
  (⟨es.slots.size⟩, ⟨es.slots.push (some b)⟩)

/-- The body of a live entity. -/
def get? (es : Entities) (e : Entity) : Option Body := (es.slots[e.index]?).join

def contains (es : Entities) (e : Entity) : Bool := (es.get? e).isSome

/-- Despawn a live entity; `none` when it is not alive. -/
def despawn (es : Entities) (e : Entity) : Option Entities :=
  if es.contains e then some ⟨es.slots.setIfInBounds e.index none⟩ else none

/-- Change the body of a live entity; nothing happens to a dead one. -/
def modify (es : Entities) (e : Entity) (f : Body → Body) : Entities :=
  match es.get? e with
  | some b => ⟨es.slots.setIfInBounds e.index (some (f b))⟩
  | none => es

/-- Every entity ever spawned with its body if alive, in spawn order. -/
def toList (es : Entities) : List (Entity × Option Body) :=
  (List.range es.slots.size).map fun i => (⟨i⟩, (es.slots[i]?).join)

end Entities

end Parley
