import Parley.Proofs.World.Firing
import Parley.Proofs.World.Lifecycle

/-!
# Every announced event is handed back once

The world announces events in many places. A start announces its interaction, the presentation
the dialogs it finishes, delivery the completions it fires, withdrawing an interaction its
ending, despawning an entity its despawn, and a script its own events. `Op.announces` says what
each operation announces and in which order, from the world before it and without reading the
queue.

The queue is first in, first out: every operation hands back events from its front only and
announces at its back only (`World.Agrees.fifo`). So over every run of a script from a new
world, the events its ticks and deliveries handed back, followed by those still queued, are all
the events announced, in the order announced: none is lost and none is handed back twice
(`Announced.handed_back`).
-/

namespace Parley

namespace World

/-- The endings, in table order and as timed out, of the entries at least the timeout old at
`tick`. -/
def timedOut (table : List (SessionId × Tracked)) (timeout : Option Nat) (tick : Nat) :
    List Event :=
  (table.filter fun entry => timeout.any fun k => decide (k ≤ tick - entry.2.startedAt)).map
    (endingOf · .timedOut)

/-- What a tick of `w` announces, in order: the dialogs the presentation finishes, the completions
that delivering them after the queue fires, and the timeouts of the interactions still tracked
that are at least the timeout old by the new tick. -/
def tickAnnounces (w : World) : List Event :=
  let finished := w.stage.tick.1
  let completed :=
    (handedOut w.bus.registrations (w.bus.queue ++ finished)).map (·.ended .completed)
  finished ++ completed ++
    timedOut (w.sessions.filter (waiting completed)) w.settings.timeoutTicks (w.tick + 1)

/-- What starting an interaction announces: its start, when it opens it. -/
def startAnnounces (w : World) (i t : Entity) : List Event :=
  if (w.start i t).1.isOk then [.interactionStarted w.nextId i t w.nextHandle.id] else []

/-- What despawning an entity announces: its despawn, when it was alive. -/
def despawnAnnounces (w : World) (e : Entity) : List Event :=
  if (w.body? e).isSome then [.entityDespawned e] else []

end World

/-- What an operation announces, in the order it announces it. -/
def Op.announces : Op → World → List Event
  | .spawn _, _ => []
  | .perform target action initiator, w =>
    match initiator.entity, target.entity with
    | some i, some t => if action.code = 0 then w.startAnnounces i t else []
    | _, _ => []
  | .update, w => w.tickAnnounces
  | .processEvents, w => (handedOut w.bus.registrations w.bus.queue).map (·.ended .completed)
  | .abandon id, w => ((w.sessions.lookup id).map fun tr => endingOf (id, tr) .abandoned).toList
  | .despawn e, w => w.despawnAnnounces e
  | .destroy p, w => p.entity.elim [] w.despawnAnnounces
  | .finish d, w => ((w.stage.finish d).map (·.1)).toList
  | .publishFinished d sig, _ => [.dialogFinished d sig]
  | .publishCustom t d, _ => [.custom t d]
  | .publishDespawned e, _ => [.entityDespawned e]

namespace World

variable {w : World}

/-- A start adds its announcement at the back of the queue. -/
theorem start_queue (w : World) (i t : Entity) :
    (w.start i t).2.bus.queue = w.bus.queue ++ w.startAnnounces i t := by
  unfold startAnnounces
  have hspec := start_spec w i t
  generalize w.start i t = r at hspec ⊢
  cases hspec with
  | refused => simp [Except.isOk, Except.toBool]
  | notCreated => simp [Except.isOk, Except.toBool]
  | notPlaced => simp [Except.isOk, Except.toBool]
  | placed => simp [Except.isOk, Except.toBool, Bus.publish]

theorem despawn_queue (w : World) (e : Entity) :
    (w.despawn e).2.bus.queue = w.bus.queue ++ w.despawnAnnounces e := by
  have hlive : (w.body? e).isSome = w.entities.contains e := rfl
  unfold despawn despawnAnnounces Entities.despawn
  rw [hlive]
  cases w.entities.contains e
  · simp
  · simp [Bus.publish]

theorem finishDialog_queue (w : World) (d : DialogId) :
    (w.finishDialog d).2.bus.queue = w.bus.queue ++ ((w.stage.finish d).map (·.1)).toList := by
  unfold finishDialog
  split
  · rename_i e stage hf
    simp [hf, Bus.publish]
  · rename_i hf
    simp [hf]

/-- Abandoning a tracked interaction announces its ending; abandoning any other announces
nothing. -/
theorem Agrees.abandon_queue (h : w.Agrees) (id : SessionId) :
    (w.abandon id).2.bus.queue = w.bus.queue ++
      ((w.sessions.lookup id).map fun tr => endingOf (id, tr) .abandoned).toList := by
  cases hl : w.sessions.lookup id with
  | none => rw [abandon, withdraw_of_lookup_none hl, Option.map_none, Option.toList_none,
      List.append_nil]
  | some tr =>
      obtain ⟨-, hq, -⟩ := h.withdraw_spec (mem_of_lookup hl) .abandoned
      exact hq

/-- The timeout sweep withdraws, in table order, every tracked interaction at least the timeout
old, announcing each as timed out, and answers whether it withdrew any. -/
theorem Agrees.expire_queue (h : w.Agrees) :
    w.expire.1 = !(timedOut w.sessions w.settings.timeoutTicks w.tick).isEmpty ∧
      w.expire.2.bus.queue = w.bus.queue ++ timedOut w.sessions w.settings.timeoutTicks w.tick := by
  unfold expire timedOut
  split
  · rename_i hk
    simp [hk]
  · rename_i k hk
    obtain ⟨hb, hq, -⟩ := h.foldl_withdraw (o := .timedOut)
      (F := fun acc id => (acc.1 || (acc.2.withdraw id .timedOut).1,
        (acc.2.withdraw id .timedOut).2))
      (fun _ _ => rfl) (w.sessions.filter fun entry => decide (k ≤ w.tick - entry.2.startedAt))
      false List.filter_sublist
    simp only [hk, Option.any_some]
    exact ⟨hb.trans (Bool.false_or _), hq⟩

/-- Timeouts raise no signal. -/
theorem silent_timedOut (table : List (SessionId × Tracked)) (timeout : Option Nat) (tick : Nat) :
    ∀ e ∈ timedOut table timeout tick, e.signal? = none := by
  intro e he
  obtain ⟨entry, -, rfl⟩ := List.mem_map.mp he
  rfl

/-- A tick hands back the queue and all it announces, and leaves the queue empty. The presentation
queues the dialogs it finishes; the first delivery hands them back after the queue with the
completions they fire; the sweep then times out, in table order, the interactions still tracked
and old enough; and the second delivery hands back those timeouts, which fire nothing. -/
theorem Agrees.update_queue (h : w.Agrees) :
    w.update.1 = w.bus.queue ++ w.tickAnnounces ∧ w.update.2.bus.queue = [] := by
  -- the tick and the presentation
  have hq₁ : ({ w with tick := w.tick + 1 }.tickStage).bus.queue =
      w.bus.queue ++ w.stage.tick.1 := by
    rw [tickStage_eq]
  have hr₁ : ({ w with tick := w.tick + 1 }.tickStage).bus.registrations =
      w.bus.registrations := by
    rw [tickStage_eq]
    exact Bus.registrations_setQueue _ _
  have hw₁ : ({ w with tick := w.tick + 1 }.tickStage).sessions = w.sessions ∧
      ({ w with tick := w.tick + 1 }.tickStage).settings = w.settings ∧
      ({ w with tick := w.tick + 1 }.tickStage).tick = w.tick + 1 := by
    rw [tickStage_eq]
    exact ⟨rfl, rfl, rfl⟩
  have ha₁ := h.tickStage
  set w₁ := { w with tick := w.tick + 1 }.tickStage
  set P := (handedOut w.bus.registrations (w.bus.queue ++ w.stage.tick.1)).map
    (·.ended .completed) with hP
  -- the first delivery
  have hd₁ : w₁.processEvents.1 = w.bus.queue ++ w.stage.tick.1 ++ P := by
    rw [processEvents_drained, drained, hq₁, hr₁]
  have hs₂ : w₁.processEvents.2.sessions = w.sessions.filter (waiting P) := by
    rw [processEvents_sessions, hd₁, hw₁.1]
    apply List.filter_congr
    intro entry he
    -- the queue ends no tracked interaction, and finished dialogs end none
    have hq : waiting w.bus.queue entry = true := waiting_eq_true.mpr (h.quiet entry he)
    have hS : waiting w.stage.tick.1 entry = true := by
      refine waiting_eq_true.mpr fun hm => ?_
      obtain ⟨e, he', hend⟩ := List.mem_filterMap.mp hm
      obtain ⟨d, rfl⟩ := Stage.mem_tick_events he'
      cases hend
    show waiting (w.bus.queue ++ w.stage.tick.1 ++ P) entry = waiting P entry
    rw [waiting_append, waiting_append, hq, hS, Bool.true_and, Bool.true_and]
  -- the sweep, on the table the first delivery left
  obtain ⟨hb₂, hq₂⟩ := ha₁.processEvents.expire_queue
  rw [hs₂, processEvents_settings, processEvents_tick, hw₁.2.1, hw₁.2.2] at hb₂
  rw [hs₂, processEvents_settings, processEvents_tick, processEvents_queue, List.nil_append,
    hw₁.2.1, hw₁.2.2] at hq₂
  rw [update_fst, update_snd]
  dsimp only
  by_cases hex : w₁.processEvents.2.expire.1 = true
  · -- the second delivery hands back the timeouts and fires nothing
    rw [if_pos hex, if_pos hex]
    have hd₂ : w₁.processEvents.2.expire.2.processEvents.1 =
        timedOut (w.sessions.filter (waiting P)) w.settings.timeoutTicks (w.tick + 1) := by
      rw [processEvents_drained, drained, hq₂, handedOut_of_silent (silent_timedOut _ _ _),
        List.map_nil, List.append_nil]
    refine ⟨?_, processEvents_queue _⟩
    rw [hd₁, hd₂, tickAnnounces]
    simp only [← hP, List.append_assoc]
  · rw [if_neg hex, if_neg hex]
    have hnil : timedOut (w.sessions.filter (waiting P)) w.settings.timeoutTicks (w.tick + 1) =
        [] := by
      rw [hb₂] at hex
      simpa using hex
    refine ⟨?_, by rw [hq₂, hnil]⟩
    rw [hd₁, tickAnnounces]
    simp only [← hP, hnil, List.append_nil, List.append_assoc]

/-- Every operation hands back events from the front of the queue only and adds what it announces
at its back. -/
theorem Agrees.fifo (h : w.Agrees) (op : Op) :
    (op.exec w).1.events ++ (op.apply w).bus.queue = w.bus.queue ++ op.announces w := by
  cases op with
  | spawn body =>
      simp only [Op.announces, List.append_nil]
      rfl
  | perform target action initiator =>
      by_cases hb : action.code = 0 ∧ ∃ i t, initiator.entity = some i ∧ target.entity = some t
      · obtain ⟨hc, i, t, hi, ht⟩ := hb
        have happly := performAction_of_bound hc hi ht w
        simp only [Op.announces, hi, ht, hc, if_true]
        rw [Op.apply_perform, happly, start_queue]
        rfl
      · have happly := performAction_of_unbound hb w
        -- any other action announces nothing
        have hnone : (Op.perform target action initiator).announces w = [] := by
          simp only [Op.announces]
          split
          · rename_i i t hi ht
            exact if_neg fun hc => hb ⟨hc, i, t, hi, ht⟩
          · rfl
        rw [hnone, List.append_nil, Op.apply_perform, happly]
        rfl
  | update =>
      obtain ⟨hfst, hq⟩ := h.update_queue
      rw [Op.events_update, Op.apply_update, hq, List.append_nil, hfst]
      rfl
  | processEvents =>
      rw [Op.events_processEvents, Op.apply_processEvents, processEvents_queue, List.append_nil,
        processEvents_drained]
      rfl
  | abandon id =>
      rw [Op.apply_abandon, h.abandon_queue]
      rfl
  | despawn e =>
      rw [Op.apply_despawn, despawn_queue]
      rfl
  | destroy p =>
      rw [Op.apply_destroy, Participant.destroy_world]
      cases hp : p.entity with
      | none =>
          simp only [Op.announces, hp, Option.elim_none, List.append_nil]
          rfl
      | some e =>
          simp only [Op.announces, hp, Option.elim_some]
          rw [despawn_queue]
          rfl
  | finish d =>
      rw [Op.apply_finish, finishDialog_queue]
      rfl
  | publishFinished d sig => rfl
  | publishCustom t d => rfl
  | publishDespawned e => rfl

end World

/-- The runs of a script from a new world: the world reached, the events its ticks and
deliveries handed back so far, and the events announced so far, each in order. -/
inductive Announced : World → List Event → List Event → Prop
  | new (stage : Stage) (settings : InteractionSettings) :
      Announced (World.new stage settings) [] []
  | step {w : World} {D A : List Event} (op : Op) :
      Announced w D A → Announced (op.apply w) (D ++ (op.exec w).1.events) (A ++ op.announces w)

namespace Announced

variable {w : World} {D A : List Event}

theorem reachable (h : Announced w D A) : Reachable w := by
  induction h with
  | new stage settings => exact .new stage settings
  | step op _ ih => exact .step op ih

/-- What the script was handed so far, followed by the queue, is everything announced, in the
order announced. -/
theorem handed_back (h : Announced w D A) : D ++ w.bus.queue = A := by
  induction h with
  | new stage settings => rfl
  | step op hrun ih =>
      rw [List.append_assoc, hrun.reachable.agrees.fifo op, ← List.append_assoc, ih]

end Announced

open World in
/-- Delivery loses nothing and hands nothing back twice. Delivering the queue `q` of a bus whose
registrations are all sessions, each announcing one ending when fired, hands back `q` in order
and then the endings of the `f` sessions it fires, in the order they are announced, and leaves
the queue empty. The loop makes exactly `q + f` rounds: `n` rounds deliver the first `n` of
those events and stop with an empty queue exactly when `q + f ≤ n`, and every round lowers the
backlog of queued events and waiting registrations by one. Over every run of a script from a new
world, the events its ticks and deliveries handed back, followed by the queue, are every event
announced, in the order announced. -/
theorem delivery_hands_back_each_event_once :
    (∀ w : World,
      w.processEvents.1 =
          w.bus.queue ++ (handedOut w.bus.registrations w.bus.queue).map (·.ended .completed) ∧
        w.processEvents.2.bus.queue = [] ∧
        ∀ n, (w.deliver n []).1 = w.drained.take n ∧
          ((w.deliver n []).2.bus.queue = [] ↔
            w.bus.queue.length + (handedOut w.bus.registrations w.bus.queue).length ≤ n) ∧
          (w.deliver n []).2.bus.backlog +
              min n (w.bus.queue.length + (handedOut w.bus.registrations w.bus.queue).length) =
            w.bus.backlog) ∧
    ∀ w D A, Announced w D A → D ++ w.bus.queue = A := by
  refine ⟨fun w => ?_, fun _ _ _ h => h.handed_back⟩
  have hstart := firing_start w
  refine ⟨processEvents_drained w, processEvents_queue w, fun n => ⟨?_, ?_, ?_⟩⟩
  · rw [hstart.deliver_fst, List.length_nil, Nat.zero_add]
  · rw [hstart.deliver_queue_eq_nil_iff, length_drained, List.length_nil, Nat.zero_add]
  · -- the rounds made are the events delivered
    have hb := backlog_deliver w n []
    rw [hstart.deliver_fst, List.length_nil, Nat.zero_add, List.length_take,
      length_drained] at hb
    rw [Nat.min_comm]
    omega

/-- Two characters talking: the player finishes their dialog, the world delivers, and a script
rings a bell. -/
def chime : World :=
  (Op.publishCustom "bell" "ring").apply (Op.processEvents.apply ((Op.finish ⟨0⟩).apply chat))

/-- The conversation's start, its finished dialog and its completion. -/
def chimeTalk : List Event :=
  [.interactionStarted ⟨2⟩ ⟨0⟩ ⟨1⟩ ⟨0⟩, .dialogFinished ⟨0⟩ ⟨1⟩,
    .interactionEnded ⟨2⟩ ⟨0⟩ ⟨1⟩ .completed]

/-- The run hands back the start, the finished dialog and the completion once each, in the order
announced, and the bell still waits in the queue. -/
theorem chime_handed_back_once :
    Announced chime chimeTalk (chimeTalk ++ [.custom "bell" "ring"]) ∧
      chimeTalk ++ chime.bus.queue = chimeTalk ++ [.custom "bell" "ring"] := by
  have hrun : Announced chime chimeTalk (chimeTalk ++ [.custom "bell" "ring"]) :=
    .step (D := chimeTalk) (A := chimeTalk) _
      (.step (D := []) (A := [.interactionStarted ⟨2⟩ ⟨0⟩ ⟨1⟩ ⟨0⟩, .dialogFinished ⟨0⟩ ⟨1⟩]) _
        (.step (D := []) (A := [.interactionStarted ⟨2⟩ ⟨0⟩ ⟨1⟩ ⟨0⟩]) _
          (.step (D := []) (A := []) _
            (.step (D := []) (A := []) _ (.step (D := []) (A := []) _ (.new _ _))))))
  exact ⟨hrun, delivery_hands_back_each_event_once.2 _ _ _ hrun⟩

end Parley
