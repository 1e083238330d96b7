import Parley.World.Delivery

/-!
# Participants

A participant is a script's handle on a character: an optional entity it is bound to and the
last interaction it was the target of. Plain characters keep no state of their own in records;
non-player characters save and restore the parts of their entity.

Performing an action on a target: the normal action starts a conversation, which needs the
initiator bound and then the target bound, and records the new session on the target. Any
other action is ignored or rejected by the settings' policy, whatever the bindings.

Saving writes each part the entity carries as a nested record under `mind`, `position`,
`motion` and `schedule`; restoring reads all nested records that are present, in that order,
before touching the world, then replaces the entity's parts with them.
-/

namespace Parley

/-- Why saving or restoring a character failed. -/
inductive StateError where
  | record (error : Record.Error)
  | noSuchEntity (entity : Entity)
  deriving DecidableEq, Repr

/-- The text of a state error. -/
def StateError.message (n : Naming) : StateError → String
  | .record e => e.message
  | .noSuchEntity e => s!"Entity {n.entity e} no longer exists"

/-- Plain characters, and non-player characters that keep their state in records. -/
inductive Participant.Kind where
  | character
  | npc
  deriving DecidableEq, Repr

/-- A handle on a character. -/
structure Participant where
  kind : Participant.Kind
  entity : Option Entity
  interaction : Option SessionId
  deriving DecidableEq, Repr

namespace Participant

/-- An unbound participant of a kind. -/
def unbound (kind : Kind) : Participant := ⟨kind, none, none⟩

/-- A participant bound to an entity. -/
def bound (kind : Kind) (e : Entity) : Participant := ⟨kind, some e, none⟩

/-- Perform an action on this participant, the target, by an initiator. -/
def performAction (self : Participant) (w : World) (action : ActionKind)
    (initiator : Participant) : Except InteractionError Participant × World :=
  match Interaction.ofAction? action with
  | some .conversation =>
    match initiator.entity, self.entity with
    | none, _ => (.error (.unbound .initiator), w)
    | some _, none => (.error (.unbound .target), w)
    | some source, some target =>
      match w.start source target with
      | (.ok session, w) => (.ok { self with interaction := some session }, w)
      | (.error e, w) => (.error e, w)
  | none =>
    match w.settings.unknownActions with
    | .ignore => (.ok self, w)
    | .reject => (.error (.unhandledAction action), w)

/-- Unbind the participant, despawning its entity if alive. -/
def destroy (self : Participant) (w : World) : Participant × World :=
  match self.entity with
  | some e => ({ self with entity := none }, (w.despawn e).2)
  | none => (self, w)

/-- Save the parts of the entity into a record. Plain and unbound participants write
nothing; a dead entity is an error. -/
def saveState (self : Participant) (w : World) (r : Record) : Except StateError Record :=
  match self.kind, self.entity with
  | .npc, some e =>
    match w.body? e with
    | none => .error (.noSuchEntity e)
    | some b =>
      let nest {α : Type} (key : String) (part : Option α) (save : α → Record → Record)
          (r : Record) : Record :=
        match part with
        | some p => r.putRecord key (save p Record.empty)
        | none => r
      .ok (r |> nest "mind" b.mind Mind.save |> nest "position" b.position Position.save
        |> nest "motion" b.motion Motion.save |> nest "schedule" b.schedule Schedule.save)
  | _, _ => .ok r

/-- Read an optional nested record as a part. -/
def restorePart {α : Type} (r : Record) (key : String) (restore : Record → Except Record.Error α) :
    Except Record.Error (Option α) := do
  match (← r.getRecord? key) with
  | some inner => some <$> restore inner
  | none => pure none

/-- Restore the parts of the entity from a record. Plain and unbound participants change
nothing. -/
def restoreState (self : Participant) (w : World) (r : Record) : Except StateError World :=
  match self.kind, self.entity with
  | .npc, some e =>
    let parsed : Except Record.Error (Option Mind × Option Position × Option Motion ×
        Option Schedule) := do
      let mind ← restorePart r "mind" Mind.restore
      let position ← restorePart r "position" Position.restore
      let motion ← restorePart r "motion" Motion.restore
      let schedule ← restorePart r "schedule" Schedule.restore
      pure (mind, position, motion, schedule)
    match parsed with
    | .error err => .error (.record err)
    | .ok (mind, position, motion, schedule) =>
      if w.entities.contains e then
        .ok (w.modifyBody e fun b => {
          mind := mind.orElse fun _ => b.mind
          position := position.orElse fun _ => b.position
          motion := motion.orElse fun _ => b.motion
          schedule := schedule.orElse fun _ => b.schedule })
      else .error (.noSuchEntity e)
  | _, _ => .ok w

end Participant

end Parley
