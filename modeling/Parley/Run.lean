import Parley.Participant
import Parley.Cast.Basic
import Parley.Config.Basic
import Parley.Action.Reach

/-!
# A run

A run spawns the configured cast, in order, into a world that shows dialogs on a headless stage.
The first member addresses the second with the normal action, if the second stands in the area
the first addresses; then the world is updated once a tick until the conversation ends or the
run has lasted its number of ticks, when the conversation is abandoned. At the end the target's
state is saved and every member is despawned.

The steps are plain functions of the run; waiting between ticks is left to the caller.
-/

namespace Parley

/-- A run in progress: its world, the cast's handles in order, and the conversation started. -/
structure Run where
  world : World
  cast : List Participant
  session : Option SessionId

/-- How a run began. -/
inductive Run.Start where
  /-- Fewer than two members were configured. -/
  | tooFewMembers
  /-- The second member stands outside the area the first addresses. -/
  | outOfReach (run : Run)
  /-- The target refused the action. -/
  | refused (error : InteractionError) (run : Run)
  /-- The conversation is under way. -/
  | started (run : Run)

/-- How the updates of a run stopped. -/
inductive Run.Stop where
  | ended (ticks : Nat) (outcome : Outcome)
  | gaveUp (ticks : Nat)
  deriving DecidableEq, Repr

namespace Run

/-- Whether the entity of `target` stands in the area the entity of `initiator` addresses. -/
def inReach (w : World) (initiator target : Participant) : Bool :=
  match initiator.entity.bind w.body?, target.entity.bind w.body? with
  | some speaker, some listener =>
    match speaker.position, speaker.motion, listener.position with
    | some origin, some motion, some point => AreaOfEffect.standard.contains origin motion.heading point
    | _, _, _ => false
  | _, _ => false

/-- Spawn the cast of a configuration and start the conversation. -/
def begin (config : Configuration) : Run.Start :=
  let stage := Stage.new config.presentation.screenLength config.presentation.autoFinishTicks
  let (w, cast) := config.cast.foldl (fun (w, cast) member =>
    let (e, w) := member.spawn w
    (w, cast ++ [Participant.bound .npc e])) (World.new stage config.interaction, [])
  match cast with
  | initiator :: target :: rest =>
    if !inReach w initiator target then .outOfReach ⟨w, cast, none⟩
    else
      match target.performAction w ActionKind.normal initiator with
      | (.ok target, w) => .started ⟨w, initiator :: target :: rest, target.interaction⟩
      | (.error e, w) => .refused e ⟨w, cast, none⟩
  | _ => .tooFewMembers

/-- The outcome of the first ending among events. -/
def endingOf (events : List Event) : Option Outcome :=
  events.findSome? fun
    | .interactionEnded _ _ _ outcome => some outcome
    | _ => none

/-- Abandon the run's conversation, delivering the ending when there was one to abandon. -/
def abandon (r : Run) : Run :=
  match r.session with
  | some id =>
    match r.world.abandon id with
    | (true, w) => { r with world := (w.processEvents).2 }
    | (false, w) => { r with world := w }
  | none => r

/-- Update the world once; the run stops when the conversation ends, or gives up, abandoning
it, once it has lasted `maxTicks` ticks. -/
def step (maxTicks : Nat) (r : Run) : Option Run.Stop × Run :=
  let (events, w) := r.world.update
  let r := { r with world := w }
  match endingOf events with
  | some outcome => (some (.ended w.tick outcome), r)
  | none => if maxTicks ≤ w.tick then (some (.gaveUp maxTicks), r.abandon) else (none, r)

/-- Save the target's state, then despawn the cast and deliver what that announces. -/
def finish (r : Run) : Except StateError (Record × World) := do
  let saved ← match r.cast with
    | _ :: target :: _ => target.saveState r.world Record.empty
    | _ => pure Record.empty
  let w := r.cast.foldl (fun w p => (p.destroy w).2) r.world
  pure (saved, (w.processEvents).2)

end Run

end Parley
