import Parley.KeyMap
import Parley.World.Event

/-!
# The event bus

The bus holds the queue of announced events, first in first out, the logs of the observers,
which see every delivered event, and the one-shot registrations of interaction sessions. A
registration waits for one signal under a number; delivering an event that raises the signal
hands out every registration waiting for it, in the order they were made, and drops them. A
registration can also be taken back by its number before its signal comes.

The registrations are kept in two maps that point at each other: from a signal to the sessions
waiting for it under their numbers, and from a number to the signal it waits for. Each operation
edits both; that they keep agreeing is a theorem, not a matter of construction.

## Implementation notes

Both maps are `KeyMap`s, whose keys occur once. The order of their entries is never read by the
world: only look-ups, removals and the number of keys are. The waiting registrations read as one
list (`registrations`) are the listeners map's lists one after the other.
-/

namespace Parley

/-- An interaction session as the bus holds it: who talks to whom, and in which dialog. -/
structure Session where
  id : SessionId
  initiator : Entity
  target : Entity
  dialog : DialogHandle
  deriving DecidableEq, Repr

/-- A session waiting for a signal, under its registration number. -/
structure Registration where
  number : Nat
  signal : Signal
  session : Session
  deriving DecidableEq, Repr

/-- The queue, the observers and the registrations: for each signal something waits for, the
sessions waiting for it under their numbers, oldest first; and the signal each waiting number
waits for. -/
structure Bus where
  queue : List Event
  /-- What each observer has seen and not yet read, oldest first. -/
  logs : List (List Event)
  listeners : KeyMap Signal (List (Nat × Session))
  signals : KeyMap Nat Signal
  nextNumber : Nat
  deriving DecidableEq

namespace Bus

def empty : Bus := ⟨[], [], .empty, .empty, 0⟩

/-- The waiting registrations, each signal's in the order they were made. -/
def registrations (b : Bus) : List Registration :=
  b.listeners.entries.flatMap fun e => e.2.map fun r => ⟨r.1, e.1, r.2⟩

/-- Announce an event: it joins the end of the queue. -/
def publish (b : Bus) (e : Event) : Bus := { b with queue := b.queue ++ [e] }

/-- Register a session for a signal under a new number, in both maps. -/
def listen (b : Bus) (signal : Signal) (s : Session) : Nat × Bus :=
  (b.nextNumber, { b with
    listeners := b.listeners.insert signal
      ((b.listeners.lookup signal).getD [] ++ [(b.nextNumber, s)])
    signals := b.signals.insert b.nextNumber signal
    nextNumber := b.nextNumber + 1 })

/-- Whether a number still waits, as the signals map says. -/
def isListening (b : Bus) (number : Nat) : Bool := (b.signals.lookup number).isSome

/-- The number of registrations still waiting, as the signals map counts them. -/
def listenerCount (b : Bus) : Nat := b.signals.size

/-- Take a registration back by its number: its session, if it still waited. The number leaves
the signals map first; then its signal's list is looked up and the number found in it, and when
either fails nothing is handed back, though the number has already left. A signal whose list
becomes empty leaves the listeners map. -/
def unlisten (b : Bus) (number : Nat) : Option Session × Bus :=
  match b.signals.lookup number with
  | none => (none, b)
  | some signal =>
    let b := { b with signals := b.signals.erase number }
    match b.listeners.lookup signal with
    | none => (none, b)
    | some regs =>
      match regs.find? (·.1 == number) with
      | none => (none, b)
      | some (_, session) =>
        let rest := regs.eraseP (·.1 == number)
        (some session, { b with
          listeners := if rest.isEmpty then b.listeners.erase signal
            else b.listeners.insert signal rest })

/-- Hand out every registration waiting for a signal, in registration order: the signal's list
leaves the listeners map, and each of its numbers leaves the signals map. -/
def take (b : Bus) (signal : Signal) : List Session × Bus :=
  let regs := (b.listeners.lookup signal).getD []
  (regs.map (·.2), { b with
    listeners := b.listeners.erase signal
    signals := regs.foldl (fun m r => m.erase r.1) b.signals })

/-- Add an observer; its index is the number of observers before it. -/
def subscribe (b : Bus) : Nat × Bus := (b.logs.length, { b with logs := b.logs ++ [[]] })

/-- Every observer sees an event. -/
def observe (b : Bus) (e : Event) : Bus := { b with logs := b.logs.map (· ++ [e]) }

/-- Read and empty an observer's log. -/
def drain (b : Bus) (index : Nat) : List Event × Bus :=
  ((b.logs[index]?).getD [], { b with logs := b.logs.set index [] })

/-- Drop the queue; the number of events dropped. -/
def clear (b : Bus) : Nat × Bus := (b.queue.length, { b with queue := [] })

end Bus

end Parley
