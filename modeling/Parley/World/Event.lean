/-!
# Identifiers and events

Entities are numbered in the order they are spawned. Dialogs, completion signals and sessions
are named by identifiers drawn from one supply, so an identifier never names two things. The
events are what the world announces on its bus: an entity despawned, a dialog finished with its
completion signal, an interaction started or ended, and events of the game's own kinds.
-/

namespace Parley

/-- An entity, by the number of its spawn. -/
structure Entity where
  index : Nat
  deriving DecidableEq, Repr, Inhabited

/-- A dialog of the presentation. -/
structure DialogId where
  val : Nat
  deriving DecidableEq, Repr, Inhabited

/-- A signal raised when a dialog finishes. -/
structure Signal where
  val : Nat
  deriving DecidableEq, Repr, Inhabited

/-- An interaction between two characters. -/
structure SessionId where
  val : Nat
  deriving DecidableEq, Repr, Inhabited

/-- A dialog together with the signal it raises when it finishes. -/
structure DialogHandle where
  id : DialogId
  signal : Signal
  deriving DecidableEq, Repr, Inhabited

/-- How an interaction ended. -/
inductive Outcome where
  | completed
  | abandoned
  | timedOut
  deriving DecidableEq, Repr

/-- The name of an outcome. -/
def Outcome.name : Outcome → String
  | .completed => "Completed"
  | .abandoned => "Abandoned"
  | .timedOut => "TimedOut"

/-- Something announced on the bus. -/
inductive Event where
  | entityDespawned (entity : Entity)
  | dialogFinished (dialog : DialogId) (signal : Signal)
  | interactionStarted (session : SessionId) (initiator target : Entity) (dialog : DialogId)
  | interactionEnded (session : SessionId) (initiator target : Entity) (outcome : Outcome)
  | custom (eventType data : String)
  deriving DecidableEq, Repr

/-- The signal an event raises: only a finished dialog raises one. -/
def Event.signal? : Event → Option Signal
  | .dialogFinished _ s => some s
  | _ => none

/-- The session an event ends, if it is an ending. -/
def Event.ends? : Event → Option SessionId
  | .interactionEnded s .. => some s
  | _ => none

end Parley
