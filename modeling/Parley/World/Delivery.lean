import Parley.World.Session

/-!
# Delivering events

Delivery takes the events from the front of the queue one at a time, events announced during
delivery included. Every observer sees each event; an event that raises a signal completes
every session waiting for it, each announcing its ending at the back of the queue. Once the
queue is empty, the sessions whose endings were delivered are no longer tracked.

A tick of the world counts the tick, ticks the presentation, delivers, and then, when a
timeout is set, withdraws as timed out every session tracked for at least that many ticks,
delivering again if any was withdrawn.

## Implementation notes

Each round of delivery takes one event from the queue and adds one for every registration it
hands out, which leaves the registrations, so the length of the queue plus the number of
registrations falls by one per round; that sum is the fuel of the loop.
-/

namespace Parley

namespace World

/-- Deliver one event taken from the queue. -/
def deliverOne (w : World) (e : Event) : World :=
  let w := { w with bus := w.bus.observe e }
  match e.signal? with
  | some signal =>
    let (sessions, bus) := w.bus.take signal
    sessions.foldl (fun w s => w.finishSession s .completed) { w with bus := bus }
  | none => w

/-- Deliver until the queue is empty or the fuel is spent; `acc` holds, newest first, the
events delivered so far. -/
def deliver (w : World) : Nat → List Event → List Event × World
  | 0, acc => (acc.reverse, w)
  | fuel + 1, acc =>
    match w.bus.queue with
    | [] => (acc.reverse, w)
    | e :: rest => deliver ({ w with bus := { w.bus with queue := rest } }.deliverOne e) fuel (e :: acc)

/-- Deliver every queued event; the events delivered, in order. -/
def processEvents (w : World) : List Event × World :=
  let (delivered, w) := w.deliver (w.bus.queue.length + w.bus.registrations.length) []
  let ended := delivered.filterMap Event.ends?
  (delivered, { w with sessions := w.sessions.filter fun (id, _) => !ended.contains id })

/-- Withdraw as timed out the sessions tracked for at least the timeout; whether any was. -/
def expire (w : World) : Bool × World :=
  match w.settings.timeoutTicks with
  | none => (false, w)
  | some timeout =>
    let expired := (w.sessions.filter fun (_, t) => timeout ≤ w.tick - t.startedAt).map (·.1)
    expired.foldl (fun (any, w) id =>
      let (withdrawn, w) := w.withdraw id .timedOut
      (any || withdrawn, w)) (false, w)

/-- Tick the presentation alone, queueing the dialogs it finishes. -/
def tickStage (w : World) : World :=
  let (events, stage) := w.stage.tick
  events.foldl publish { w with stage := stage }

/-- One tick of the world; the events delivered. -/
def update (w : World) : List Event × World :=
  let w := { w with tick := w.tick + 1 }.tickStage
  let (delivered, w) := w.processEvents
  let (withdrawn, w) := w.expire
  if withdrawn then
    let (more, w) := w.processEvents
    (delivered ++ more, w)
  else (delivered, w)

/-- Abandon a tracked session; `false` when it is not tracked. -/
def abandon (w : World) (id : SessionId) : Bool × World := w.withdraw id .abandoned

/-- Finish an open dialog and announce it; `false` when it was not open. -/
def finishDialog (w : World) (d : DialogId) : Bool × World :=
  match w.stage.finish d with
  | some (e, stage) => (true, { w with stage := stage }.publish e)
  | none => (false, w)

/-- Ask the presentation for a conversation directly, under fresh identifiers. -/
def createConversation (w : World) (mind : Mind) (width height : Nat) :
    Except PresentationError (DialogHandle × World) :=
  let (dialog, w) := w.mint
  let (signal, w) := w.mint
  let handle : DialogHandle := ⟨⟨dialog⟩, ⟨signal⟩⟩
  (w.stage.create handle mind width height).map fun stage => (handle, { w with stage := stage })

/-- Place a dialog directly. -/
def placeDialog (w : World) (x y : Int) (handle : DialogHandle) : Except PresentationError World :=
  (w.stage.place x y handle).map fun stage => { w with stage := stage }

/-- Dismiss a dialog directly. -/
def dismissDialog (w : World) (d : DialogId) : World := { w with stage := w.stage.dismiss d }

end World

end Parley
