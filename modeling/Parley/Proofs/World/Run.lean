import Parley.Proofs.World.Start

/-!
# Runs of the world

A script drives the world from outside. It spawns entities, has one character perform an
action on another, updates the world by a tick or only delivers the queued events, abandons
interactions, despawns entities or destroys characters, finishes open dialogs as the player
would, and announces finished dialogs, events of the game's own kinds and despawned entities.
`Reachable` holds of every world a script reaches from a new world.

Announcing an interaction's start or end is left to the world itself: a script never does it.
-/

namespace Parley

/-- An operation a script performs on the world. -/
inductive Op where
  | spawn (body : Body)
  | perform (target : Participant) (action : ActionKind) (initiator : Participant)
  | update
  | processEvents
  | abandon (id : SessionId)
  | despawn (entity : Entity)
  | destroy (participant : Participant)
  | finish (dialog : DialogId)
  | publishFinished (dialog : DialogId) (signal : Signal)
  | publishCustom (eventType data : String)
  | publishDespawned (entity : Entity)

/-- What an operation answers. -/
inductive Reply where
  | spawned (entity : Entity)
  | performed (result : Except InteractionError Participant)
  | delivered (events : List Event)
  | answered (b : Bool)
  | done

namespace Op

/-- Perform an operation: its answer and the world after it. -/
def exec : Op → World → Reply × World
  | spawn body, w => let (e, w) := w.spawn body; (.spawned e, w)
  | perform target action initiator, w =>
    let (r, w) := target.performAction w action initiator
    (.performed r, w)
  | update, w => let (es, w) := w.update; (.delivered es, w)
  | processEvents, w => let (es, w) := w.processEvents; (.delivered es, w)
  | abandon id, w => let (b, w) := w.abandon id; (.answered b, w)
  | despawn e, w => let (b, w) := w.despawn e; (.answered b, w)
  | destroy p, w => (.done, (p.destroy w).2)
  | finish d, w => let (b, w) := w.finishDialog d; (.answered b, w)
  | publishFinished d s, w => (.done, w.publish (.dialogFinished d s))
  | publishCustom t d, w => (.done, w.publish (.custom t d))
  | publishDespawned e, w => (.done, w.publish (.entityDespawned e))

/-- The world after an operation. -/
def apply (op : Op) (w : World) : World := (op.exec w).2

/-- The body an operation spawns. -/
def spawned? : Op → Option Body
  | spawn body => some body
  | _ => none

@[simp] theorem apply_spawn (body : Body) (w : World) : (spawn body).apply w = (w.spawn body).2 :=
  rfl

@[simp] theorem apply_perform (target initiator : Participant) (action : ActionKind) (w : World) :
    (perform target action initiator).apply w = (target.performAction w action initiator).2 := rfl

@[simp] theorem apply_update (w : World) : update.apply w = w.update.2 := rfl

@[simp] theorem apply_processEvents (w : World) : processEvents.apply w = w.processEvents.2 := rfl

@[simp] theorem apply_abandon (id : SessionId) (w : World) :
    (abandon id).apply w = (w.abandon id).2 := rfl

@[simp] theorem apply_despawn (e : Entity) (w : World) : (despawn e).apply w = (w.despawn e).2 :=
  rfl

@[simp] theorem apply_destroy (p : Participant) (w : World) :
    (destroy p).apply w = (p.destroy w).2 := rfl

@[simp] theorem apply_finish (d : DialogId) (w : World) :
    (finish d).apply w = (w.finishDialog d).2 := rfl

@[simp] theorem apply_publishFinished (d : DialogId) (s : Signal) (w : World) :
    (publishFinished d s).apply w = w.publish (.dialogFinished d s) := rfl

@[simp] theorem apply_publishCustom (t d : String) (w : World) :
    (publishCustom t d).apply w = w.publish (.custom t d) := rfl

@[simp] theorem apply_publishDespawned (e : Entity) (w : World) :
    (publishDespawned e).apply w = w.publish (.entityDespawned e) := rfl

end Op

/-- The worlds a script reaches from a new world. -/
inductive Reachable : World → Prop
  | new (stage : Stage) (settings : InteractionSettings) : Reachable (World.new stage settings)
  | step {w : World} (op : Op) : Reachable w → Reachable (op.apply w)

namespace World

/-- A tick of the world: the presentation ticks, the queue is delivered, timed out sessions are
withdrawn and, if any was, the queue is delivered again. -/
theorem update_snd (w : World) :
    w.update.2 =
      let w₁ := ({ w with tick := w.tick + 1 }.tickStage).processEvents.2
      if w₁.expire.1 then w₁.expire.2.processEvents.2 else w₁.expire.2 := by
  unfold update
  dsimp only
  rw [apply_ite Prod.snd]

/-- The events a tick delivers: those of the first delivery and, if the timeout sweep withdrew
any session, those of the second. -/
theorem update_fst (w : World) :
    w.update.1 =
      let w₁ := ({ w with tick := w.tick + 1 }.tickStage).processEvents
      if w₁.2.expire.1 then w₁.1 ++ w₁.2.expire.2.processEvents.1 else w₁.1 := by
  unfold update
  dsimp only
  rw [apply_ite Prod.fst]

/-- Expiring sessions keeps every property that withdrawing one timed out session keeps. -/
theorem expire_induction (P : World → Prop)
    (hstep : ∀ w id, P w → P (w.withdraw id .timedOut).2) {w : World} (h : P w) :
    P w.expire.2 := by
  unfold expire
  split
  · exact h
  · refine List.foldlRecOn (motive := fun acc : Bool × World => P acc.2) _ _ h ?_
    intro acc hacc id _
    exact hstep acc.2 id hacc

/-- Ticking the presentation announces the dialogs it finishes and changes nothing else of the
world. -/
theorem tickStage_eq (w : World) :
    w.tickStage = { w with
      stage := w.stage.tick.2
      bus := { w.bus with queue := w.bus.queue ++ w.stage.tick.1 } } := by
  unfold tickStage
  rcases w.stage.tick with ⟨events, stage⟩
  exact foldl_publish _ _

end World

namespace Participant

/-- Performing an action leaves the world alone, or starts an interaction between the bound
entities of the normal action's initiator and target. -/
theorem performAction_cases (self : Participant) (w : World) (action : ActionKind)
    (initiator : Participant) :
    (self.performAction w action initiator).2 = w ∨
      ∃ i t, action.code = 0 ∧ initiator.entity = some i ∧ self.entity = some t ∧
        (self.performAction w action initiator).2 = (w.start i t).2 := by
  unfold performAction
  split
  · rename_i h
    have hcode : action.code = 0 := by
      unfold Interaction.ofAction? at h
      split at h <;> simp_all
    split
    · exact .inl rfl
    · exact .inl rfl
    · rename_i i t hi ht
      refine .inr ⟨i, t, hcode, hi, ht, ?_⟩
      split <;> simp_all
  · split <;> exact .inl rfl

/-- Destroying a character despawns its entity, if it is bound to one. -/
theorem destroy_world (p : Participant) (w : World) :
    (p.destroy w).2 = match p.entity with
      | some e => (w.despawn e).2
      | none => w := by
  unfold destroy
  split <;> simp_all

end Participant

end Parley
