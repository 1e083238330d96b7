import Parley.Proofs.World.Endings

/-!
# The lifecycle of an interaction

Over every run of a script, the history of everything announced (the events handed to the script
followed by the queue) starts each interaction at most once and ends it at most once, each ending
after its start, and an interaction is in progress exactly when its start is in the history and
its ending is not (`World.Chronicle`).

Each operation adds to the history at its end (`World.Publishes`). The starts it adds are those of
the interactions it opens (`Op.Starts`), and the endings those of the tracked interactions it
ends, with the outcome of the way it ends them (`Op.Ends`): delivering a finished dialog with the
session's signal completes it, abandoning it abandons it, and the timeout sweep of a tick times it
out. A second abandon, or a late finished dialog, finds the interaction no longer tracked and ends
nothing.

Main statement: `session_lifecycle`.
-/

namespace Parley

namespace Op

/-- The operation opens the interaction `s` between `i` and `t` with the dialog `d`: it is a normal
action of a character bound to `i` on one bound to `t`, which the world starts under `s` with its
next dialog. -/
def Starts (op : Op) (w : World) (s : SessionId) (i t : Entity) (d : DialogId) : Prop :=
  ∃ target action initiator, op = perform target action initiator ∧ action.code = 0 ∧
    initiator.entity = some i ∧ target.entity = some t ∧ (w.start i t).1 = .ok s ∧
    d = w.nextHandle.id

/-- How the operation ends the tracked interaction `entry` with the outcome `o`. Delivering a
finished dialog with the entry's signal completes it; abandoning it, which answers `true`,
abandons it; and a tick whose timeout sweep finds it at least the timeout old, with no dialog of
its signal delivered, times it out. -/
def Ends (op : Op) (w : World) (entry : SessionId × Tracked) (o : Outcome) : Prop :=
  (o = .completed ∧ (op = update ∨ op = processEvents) ∧
      ∃ d, .dialogFinished d entry.2.signal ∈ (op.exec w).1.events) ∨
    (o = .abandoned ∧ op = abandon entry.1 ∧ (w.abandon entry.1).1 = true) ∨
    (o = .timedOut ∧ op = update ∧
      (∃ k, w.settings.timeoutTicks = some k ∧ k ≤ w.tick + 1 - entry.2.startedAt) ∧
      ¬∃ d, .dialogFinished d entry.2.signal ∈ (op.exec w).1.events)

@[simp] theorem events_update (w : World) : (update.exec w).1.events = w.update.1 := rfl

@[simp] theorem events_processEvents (w : World) :
    (processEvents.exec w).1.events = w.processEvents.1 := rfl

end Op

namespace World

variable {w w' : World} {H : List Event}

/-- Between operations, of a world and the history `H` of everything announced so far: the table
agrees with the bus; every interaction is started at most once and ended at most once, each ending
after its start; the interactions started are drawn from the supply; and the interactions tracked
are those started and not ended. -/
structure Chronicle (w : World) (H : List Event) : Prop where
  agrees : w.Agrees
  startsOnce : (startedIn H).Nodup
  endsOnce : (endedIn H).Nodup
  drawn : ∀ s ∈ startedIn H, s.val < w.supply
  ordered : Ordered H
  tracked : ∀ s, s ∈ w.sessions.map (·.1) ↔ s ∈ startedIn H ∧ s ∉ endedIn H

theorem chronicle_new (stage : Stage) (settings : InteractionSettings) :
    Chronicle (World.new stage settings) [] where
  agrees := agrees_new stage settings
  startsOnce := List.nodup_nil
  endsOnce := List.nodup_nil
  drawn s hs := by simp at hs
  ordered H₁ hp s hs := by
    rw [List.prefix_nil.mp hp] at hs
    simp at hs
  tracked s := by simp [World.new]

theorem Chronicle.started_of_ended (h : Chronicle w H) {s : SessionId} (hs : s ∈ endedIn H) :
    s ∈ startedIn H :=
  h.ordered H (List.prefix_refl H) s hs

/-- Events that end distinct tracked interactions, and start none, continue the chronicle. -/
theorem Chronicle.retire {P : List Event} (h : Chronicle w H) (hr : Retires w w' P) :
    Chronicle w' (H ++ P) where
  agrees := hr.agrees
  startsOnce := by
    rw [startedIn_append, hr.starts, List.append_nil]
    exact h.startsOnce
  endsOnce := by
    rw [endedIn_append]
    refine List.nodup_append.mpr ⟨h.endsOnce, hr.nodup, ?_⟩
    rintro s hs _ hs' rfl
    exact ((h.tracked s).mp (hr.tracked s hs')).2 hs
  drawn s hs := by
    rw [startedIn_append, hr.starts, List.append_nil] at hs
    exact Nat.lt_of_lt_of_le (h.drawn s hs) hr.supply
  ordered := h.ordered.append fun s hs => ((h.tracked s).mp (hr.tracked s hs)).1
  tracked s := by
    rw [hr.sessions, mem_map_filter_waiting, h.tracked, startedIn_append, hr.starts,
      List.append_nil, endedIn_append, List.mem_append, not_or, and_assoc]

/-- Announcing the start of an interaction under an identifier drawn just now, tracked from now
on, continues the chronicle. -/
theorem Chronicle.track (h : Chronicle w H) {s : SessionId} {i t : Entity} {d : DialogId}
    (ha : w'.Agrees) (hfresh : w.supply ≤ s.val) (hdrawn : s.val < w'.supply)
    (hsupply : w.supply ≤ w'.supply) (hs : w'.sessions.map (·.1) = w.sessions.map (·.1) ++ [s]) :
    Chronicle w' (H ++ [.interactionStarted s i t d]) := by
  have hnew : s ∉ startedIn H := fun hin => by
    have := h.drawn s hin
    omega
  have hstarted : startedIn (H ++ [.interactionStarted s i t d]) = startedIn H ++ [s] := by
    simp [startedIn, Event.starts?]
  have hended : endedIn (H ++ [.interactionStarted s i t d]) = endedIn H := by
    simp [endedIn, Event.ends?]
  refine ⟨ha, ?_, ?_, ?_, ?_, ?_⟩
  · rw [hstarted]
    exact List.nodup_append.mpr ⟨h.startsOnce, List.nodup_singleton s,
      fun x hx y hy hxy => hnew (by rw [List.mem_singleton.mp hy] at hxy; exact hxy ▸ hx)⟩
  · rw [hended]
    exact h.endsOnce
  · intro x hx
    rw [hstarted, List.mem_append, List.mem_singleton] at hx
    rcases hx with hx | rfl
    · exact Nat.lt_of_lt_of_le (h.drawn x hx) hsupply
    · exact hdrawn
  · exact h.ordered.append fun x hx => by simp [endedIn, Event.ends?] at hx
  · intro x
    rw [hs, hstarted, hended, List.mem_append, List.mem_singleton, List.mem_append,
      List.mem_singleton, h.tracked]
    constructor
    · rintro (⟨hx, hn⟩ | rfl)
      · exact ⟨.inl hx, hn⟩
      · exact ⟨.inr rfl, fun he => hnew (h.started_of_ended he)⟩
    · rintro ⟨hx | rfl, hn⟩
      · exact .inl ⟨hx, hn⟩
      · exact .inr rfl

/-- What starting an interaction announces: its own start, once, if it opens it, and nothing
else. -/
theorem start_announces (w : World) (i t : Entity) :
    ∃ P, (w.start i t).2.bus.queue = w.bus.queue ++ P ∧ endedIn P = [] ∧
      ∀ s i' t' d, .interactionStarted s i' t' d ∈ P ↔
        (w.start i t).1 = .ok s ∧ i' = i ∧ t' = t ∧ d = w.nextHandle.id := by
  have hspec := start_spec w i t
  generalize w.start i t = r at hspec
  cases hspec with
  | refused => exact ⟨[], by simp, rfl, by simp⟩
  | notCreated => exact ⟨[], by simp, rfl, by simp⟩
  | notPlaced => exact ⟨[], by simp, rfl, by simp⟩
  | placed =>
      refine ⟨[.interactionStarted w.nextId i t w.nextHandle.id], by simp, rfl, ?_⟩
      intro s i' t' d
      simp only [List.mem_singleton, Event.interactionStarted.injEq, Except.ok.injEq]
      constructor
      · rintro ⟨rfl, rfl, rfl, rfl⟩
        exact ⟨rfl, rfl, rfl, rfl⟩
      · rintro ⟨rfl, rfl, rfl, rfl⟩
        exact ⟨rfl, rfl, rfl, rfl⟩

/-- Starting an interaction continues the chronicle with what it announces. -/
theorem Chronicle.start (h : Chronicle w H) (i t : Entity) :
    Chronicle (w.start i t).2 (H ++ (w.start i t).2.bus.queue.drop w.bus.queue.length) := by
  have ha := h.agrees.start i t
  have hspec := start_spec w i t
  generalize w.start i t = r at hspec ha ⊢
  cases hspec with
  | refused => simpa using h
  | notCreated =>
      simpa using h.retire (Retires.silent ha startedIn_nil endedIn_nil (by simp) (by simp))
  | notPlaced =>
      simpa using h.retire (Retires.silent ha startedIn_nil endedIn_nil (by simp) (by simp))
  | placed =>
      have hc := h.track (s := w.nextId) (d := w.nextHandle.id) (i := i) (t := t) ha
        (by simp [nextId])
        (by simp [nextId]) (by simp) (by simp [nextId])
      simpa using hc

/-- What one operation adds to the history, for a world whose table agrees with its bus: it
delivers from the front of the queue and adds its events at the back; the starts among them are
those of the interactions it opens, the endings those of the tracked interactions it ends, each
with the outcome of the way it ends it; and the chronicle goes on. -/
structure Publishes (w : World) (op : Op) : Prop where
  fifo : (op.exec w).1.events ++ (op.apply w).bus.queue = w.bus.queue ++ op.published w
  starts : ∀ s i t d, .interactionStarted s i t d ∈ op.published w ↔ op.Starts w s i t d
  ends : ∀ s i t o, .interactionEnded s i t o ∈ op.published w ↔
    ∃ tr, (s, tr) ∈ w.sessions ∧ tr.initiator = i ∧ tr.target = t ∧ op.Ends w (s, tr) o
  chronicle : ∀ H, Chronicle w H → Chronicle (op.apply w) (H ++ op.published w)

/-- Only an action opens an interaction. -/
theorem Op.not_starts {op : Op}
    (hop : ∀ target action initiator, op ≠ .perform target action initiator)
    {s : SessionId} {i t : Entity} {d : DialogId} : ¬ op.Starts w s i t d := by
  rintro ⟨target, action, initiator, h, -⟩
  exact hop target action initiator h

/-- An operation that opens and ends no interaction, and only queues events that neither start
nor end one. -/
theorem Publishes.silent {op : Op} (h : w.Agrees) (hev : (op.exec w).1.events = [])
    (hq : ∃ P, (op.apply w).bus.queue = w.bus.queue ++ P ∧
      ∀ e ∈ P, e.starts? = none ∧ e.ends? = none)
    (hf : Framed w (op.apply w))
    (hstart : ∀ s i t d, ¬ op.Starts w s i t d) (hend : ∀ entry o, ¬ op.Ends w entry o) :
    Publishes w op := by
  obtain ⟨P, hq, hP⟩ := hq
  have hfifo : (op.exec w).1.events ++ (op.apply w).bus.queue = w.bus.queue ++ P := by
    rw [hev, hq, List.nil_append]
  have hpub := Op.published_eq hfifo
  refine ⟨hpub ▸ hfifo, ?_, ?_, ?_⟩
  · intro s i t d
    rw [hpub]
    constructor
    · intro hm
      cases (hP _ hm).1
    · exact fun hs => absurd hs (hstart s i t d)
  · intro s i t o
    rw [hpub]
    constructor
    · intro hm
      cases (hP _ hm).2
    · rintro ⟨tr, -, -, -, hends⟩
      exact absurd hends (hend _ o)
  · intro H hc
    rw [hpub]
    exact hc.retire (Retires.silent (h.apply op) (startedIn_eq_nil fun e he => (hP e he).1)
      (endedIn_eq_nil fun e he => (hP e he).2) hf.sessions (Nat.le_of_eq hf.supply.symm))

/-- An operation that is no action and ends, once each, tracked interactions it describes. -/
theorem Publishes.of_retires {op : Op} {P : List Event}
    (hfifo : (op.exec w).1.events ++ (op.apply w).bus.queue = w.bus.queue ++ P)
    (hr : Retires w (op.apply w) P)
    (hstart : ∀ target action initiator, op ≠ .perform target action initiator)
    (hends : ∀ s i t o, .interactionEnded s i t o ∈ P ↔
      ∃ tr, (s, tr) ∈ w.sessions ∧ tr.initiator = i ∧ tr.target = t ∧ op.Ends w (s, tr) o) :
    Publishes w op := by
  have hpub := Op.published_eq hfifo
  refine ⟨hpub ▸ hfifo, ?_, hpub ▸ hends, fun H hc => hpub ▸ hc.retire hr⟩
  intro s i t d
  rw [hpub]
  constructor
  · intro hm
    have hs : s ∈ startedIn P := List.mem_filterMap.mpr ⟨_, hm, rfl⟩
    rw [hr.starts] at hs
    cases hs
  · exact fun hs => absurd hs (Op.not_starts hstart)

/-- An action ends no interaction. -/
theorem Op.not_ends_of_perform {target initiator : Participant} {action : ActionKind}
    {entry : SessionId × Tracked} {o : Outcome} :
    ¬ (Op.perform target action initiator).Ends w entry o := by
  rintro (⟨-, hop | hop, -⟩ | ⟨-, hop, -⟩ | ⟨-, hop, -⟩) <;> cases hop

/-- A normal action between bound characters performs the start of the interaction. -/
theorem performAction_of_bound {target initiator : Participant} {action : ActionKind}
    {i t : Entity} (hc : action.code = 0) (hi : initiator.entity = some i)
    (ht : target.entity = some t) (w : World) :
    (target.performAction w action initiator).2 = (w.start i t).2 := by
  unfold Participant.performAction
  split
  · split
    · simp_all
    · simp_all
    · rename_i i' t' hi' ht'
      obtain rfl : i' = i := Option.some.inj (hi'.symm.trans hi)
      obtain rfl : t' = t := Option.some.inj (ht'.symm.trans ht)
      split <;> simp_all
  · rename_i hnone
    simp [Interaction.ofAction?, hc] at hnone

/-- Any other action leaves the world alone. -/
theorem performAction_of_unbound {target initiator : Participant} {action : ActionKind}
    (h : ¬ (action.code = 0 ∧ ∃ i t, initiator.entity = some i ∧ target.entity = some t))
    (w : World) : (target.performAction w action initiator).2 = w := by
  rcases target.performAction_cases w action initiator with hw | ⟨i, t, hc, hi, ht, -⟩
  · exact hw
  · exact absurd ⟨hc, i, t, hi, ht⟩ h

/-- A normal action between bound characters announces what starting the interaction
announces. -/
theorem publishes_start {target initiator : Participant} {action : ActionKind} {i t : Entity}
    (hc : action.code = 0) (hi : initiator.entity = some i) (ht : target.entity = some t) :
    Publishes w (.perform target action initiator) := by
  have happly : (Op.perform target action initiator).apply w = (w.start i t).2 :=
    performAction_of_bound hc hi ht w
  obtain ⟨P, hq, hend, hst⟩ := start_announces w i t
  have hfifo : ((Op.perform target action initiator).exec w).1.events ++
      ((Op.perform target action initiator).apply w).bus.queue = w.bus.queue ++ P := by
    rw [happly]
    exact hq
  have hpub := Op.published_eq hfifo
  refine ⟨hpub ▸ hfifo, ?_, ?_, ?_⟩
  · intro s i' t' d
    rw [hpub, hst]
    constructor
    · rintro ⟨hs, rfl, rfl, rfl⟩
      exact ⟨target, action, initiator, rfl, hc, hi, ht, hs, rfl⟩
    · rintro ⟨target', action', initiator', hop, -, hi', ht', hs, rfl⟩
      obtain ⟨rfl, rfl, rfl⟩ := Op.perform.inj hop
      obtain rfl : i' = i := Option.some.inj (hi'.symm.trans hi)
      obtain rfl : t' = t := Option.some.inj (ht'.symm.trans ht)
      exact ⟨hs, rfl, rfl, rfl⟩
  · intro s i' t' o
    rw [hpub]
    constructor
    · intro hm
      have hs : s ∈ endedIn P := List.mem_filterMap.mpr ⟨_, hm, rfl⟩
      rw [hend] at hs
      cases hs
    · rintro ⟨tr, -, -, -, hends⟩
      exact absurd hends Op.not_ends_of_perform
  · intro H hc'
    rw [hpub, happly]
    have hstart := hc'.start i t
    rwa [hq, List.drop_left] at hstart

theorem publishes_perform (h : w.Agrees) (target : Participant) (action : ActionKind)
    (initiator : Participant) : Publishes w (.perform target action initiator) := by
  by_cases hb : action.code = 0 ∧ ∃ i t, initiator.entity = some i ∧ target.entity = some t
  · obtain ⟨hc, i, t, hi, ht⟩ := hb
    exact publishes_start hc hi ht
  · -- any other action changes nothing and opens nothing
    have happly : (Op.perform target action initiator).apply w = w :=
      performAction_of_unbound hb w
    have hnone : ∀ s i t d, ¬ (Op.perform target action initiator).Starts w s i t d := by
      rintro s i t d ⟨target', action', initiator', hop, hc, hi, ht, -⟩
      obtain ⟨rfl, rfl, rfl⟩ := Op.perform.inj hop
      exact hb ⟨hc, i, t, hi, ht⟩
    exact Publishes.silent h rfl ⟨[], by rw [happly, List.append_nil], by simp⟩
      (by rw [happly]; exact Framed.refl w) hnone fun _ _ => Op.not_ends_of_perform

/-- Delivering the queue announces the completions of the tracked interactions whose signal is
delivered. -/
theorem publishes_processEvents (h : w.Agrees) : Publishes w .processEvents := by
  obtain ⟨P, hE, hL, hr⟩ := h.processEvents_spec
  refine Publishes.of_retires ?_ hr nofun ?_
  · rw [Op.events_processEvents, Op.apply_processEvents, processEvents_queue, List.append_nil, hL]
  · intro s i t o
    rw [hE.ended_mem_iff]
    constructor
    · rintro ⟨tr, he, hsel, hi, ht, rfl⟩
      refine ⟨tr, he, hi, ht, .inl ⟨rfl, .inr rfl, ?_⟩⟩
      rw [Op.events_processEvents, hL]
      exact hE.finished_mem_append.mpr hsel
    · rintro ⟨tr, he, hi, ht, ⟨rfl, -, hdel⟩ | ⟨-, hop, -⟩ | ⟨-, hop, -⟩⟩
      · rw [Op.events_processEvents, hL] at hdel
        exact ⟨tr, he, hE.finished_mem_append.mp hdel, hi, ht, rfl⟩
      · cases hop
      · cases hop

/-- A tick announces the finished dialogs of the presentation, the completions of the tracked
interactions whose signal it delivers, and the timeouts of the others old enough. -/
theorem publishes_update (h : w.Agrees) : Publishes w .update := by
  obtain ⟨S, P, T, -, hS, hP, hT, hL, hq, hr⟩ := h.update_spec
  refine Publishes.of_retires ?_ hr nofun ?_
  · rw [Op.events_update, Op.apply_update, hq, List.append_nil, hL]
  · intro s i t o
    -- the finished dialogs a tick delivers are those queued before it or by the presentation
    have hdel : ∀ sig, (∃ d, .dialogFinished d sig ∈ (Op.update.exec w).1.events) ↔
        ∃ d, .dialogFinished d sig ∈ w.bus.queue ++ S := by
      intro sig
      rw [Op.events_update, hL, ← List.append_assoc, ← List.append_assoc,
        hT.finished_mem_append, hP.finished_mem_append]
    have hS' : .interactionEnded s i t o ∉ S := fun hm => by
      obtain ⟨d, sig, heq⟩ := hS _ hm
      cases heq
    rw [List.mem_append, List.mem_append, hP.ended_mem_iff, hT.ended_mem_iff]
    constructor
    · rintro ((hm | ⟨tr, he, hsel, hi, ht, rfl⟩) | ⟨tr, he, hsel, hi, ht, rfl⟩)
      · exact absurd hm hS'
      · exact ⟨tr, he, hi, ht, .inl ⟨rfl, .inl rfl, (hdel _).mpr hsel⟩⟩
      · obtain ⟨he, hw⟩ := List.mem_filter.mp he
        refine ⟨tr, he, hi, ht, .inr (.inr ⟨rfl, rfl, hsel, fun hd => ?_⟩)⟩
        exact (hP.waiting_eq_true h.ids he).mp hw ((hdel _).mp hd)
    · rintro ⟨tr, he, hi, ht, ⟨rfl, -, hd⟩ | ⟨-, hop, -⟩ | ⟨rfl, -, hsel, hnd⟩⟩
      · exact .inl (.inr ⟨tr, he, (hdel _).mp hd, hi, ht, rfl⟩)
      · cases hop
      · refine .inr ⟨tr, List.mem_filter.mpr ⟨he, ?_⟩, hsel, hi, ht, rfl⟩
        exact (hP.waiting_eq_true h.ids he).mpr fun hd => hnd ((hdel _).mpr hd)

/-- Abandoning a tracked interaction announces its ending as abandoned; abandoning any other
announces nothing. -/
theorem publishes_abandon (h : w.Agrees) (s : SessionId) : Publishes w (.abandon s) := by
  cases hl : w.sessions.lookup s with
  | none =>
      have hw : w.abandon s = (false, w) := withdraw_of_lookup_none hl _
      have happly : (Op.abandon s).apply w = w := by rw [Op.apply_abandon, hw]
      refine Publishes.of_retires (P := []) ?_ ?_ nofun ?_
      · rw [happly, List.append_nil]
        rfl
      · rw [happly]
        exact Retires.silent h rfl rfl rfl (Nat.le_refl _)
      · intro s' i t o
        simp only [List.not_mem_nil, false_iff]
        rintro ⟨tr, he, -, -, ⟨-, hop | hop, -⟩ | ⟨-, hop, -⟩ | ⟨-, hop, -⟩⟩
        · cases hop
        · cases hop
        · obtain rfl : s = s' := Op.abandon.inj hop
          rw [lookup_of_mem h.ids he] at hl
          cases hl
        · cases hop
  | some tr =>
      obtain ⟨hb, hq, hE, hr⟩ := h.withdraw_spec (mem_of_lookup hl) .abandoned
      refine Publishes.of_retires hq hr nofun ?_
      intro s' i t o
      rw [hE.ended_mem_iff]
      constructor
      · rintro ⟨tr', he, heq, hi, ht, rfl⟩
        obtain ⟨rfl, rfl⟩ := Prod.mk.inj heq
        exact ⟨tr', he, hi, ht, .inr (.inl ⟨rfl, rfl, hb⟩)⟩
      · rintro ⟨tr', he, hi, ht, ⟨-, hop | hop, -⟩ | ⟨rfl, hop, -⟩ | ⟨-, hop, -⟩⟩
        · cases hop
        · cases hop
        · obtain rfl : s = s' := Op.abandon.inj hop
          have htr : some tr = some tr' := hl.symm.trans (lookup_of_mem h.ids he)
          obtain rfl := Option.some.inj htr
          exact ⟨tr, he, rfl, hi, ht, rfl⟩
        · cases hop

theorem despawn_announces (w : World) (e : Entity) :
    ∃ P, (w.despawn e).2.bus.queue = w.bus.queue ++ P ∧
      ∀ x ∈ P, x.starts? = none ∧ x.ends? = none := by
  unfold World.despawn
  split
  · exact ⟨[.entityDespawned e], rfl, by simp [Event.starts?, Event.ends?]⟩
  · exact ⟨[], by simp, by simp⟩

theorem framed_despawn (w : World) (e : Entity) : Framed w (w.despawn e).2 := by
  unfold World.despawn
  split
  · exact ⟨rfl, rfl, rfl, rfl⟩
  · exact Framed.refl w

theorem publishes_despawn (h : w.Agrees) (e : Entity) : Publishes w (.despawn e) :=
  Publishes.silent h rfl (despawn_announces w e) (framed_despawn w e) (by simp [Op.Starts])
    (by simp [Op.Ends])

theorem publishes_destroy (h : w.Agrees) (p : Participant) : Publishes w (.destroy p) := by
  cases hp : p.entity with
  | none =>
      have happly : (Op.destroy p).apply w = w := by
        rw [Op.apply_destroy, Participant.destroy_world, hp]
      exact Publishes.silent h rfl ⟨[], by rw [happly, List.append_nil], by simp⟩
        (by rw [happly]; exact Framed.refl w) (by simp [Op.Starts]) (by simp [Op.Ends])
  | some e =>
      have happly : (Op.destroy p).apply w = (w.despawn e).2 := by
        rw [Op.apply_destroy, Participant.destroy_world, hp]
      exact Publishes.silent h rfl (happly ▸ despawn_announces w e)
        (happly ▸ framed_despawn w e) (by simp [Op.Starts]) (by simp [Op.Ends])

theorem finishDialog_announces (w : World) (d : DialogId) :
    ∃ P, (w.finishDialog d).2.bus.queue = w.bus.queue ++ P ∧
      ∀ x ∈ P, x.starts? = none ∧ x.ends? = none := by
  unfold World.finishDialog
  split
  · rename_i e stage hf
    obtain ⟨handle, rfl⟩ := Stage.finish_event hf
    exact ⟨[Stage.finished handle], rfl, by simp [Stage.finished, Event.starts?, Event.ends?]⟩
  · exact ⟨[], by simp, by simp⟩

theorem framed_finishDialog (w : World) (d : DialogId) : Framed w (w.finishDialog d).2 := by
  unfold World.finishDialog
  split
  · exact ⟨rfl, rfl, rfl, rfl⟩
  · exact Framed.refl w

theorem publishes_finish (h : w.Agrees) (d : DialogId) : Publishes w (.finish d) :=
  Publishes.silent h rfl (finishDialog_announces w d) (framed_finishDialog w d)
    (by simp [Op.Starts]) (by simp [Op.Ends])

/-- Announcing an event that neither starts nor ends an interaction, as a script may. -/
theorem publishes_announce (h : w.Agrees) {op : Op} {e : Event}
    (happly : op.apply w = w.publish e) (hev : (op.exec w).1.events = [])
    (he : e.starts? = none ∧ e.ends? = none) (hstart : ∀ s i t d, ¬ op.Starts w s i t d)
    (hend : ∀ entry o, ¬ op.Ends w entry o) : Publishes w op :=
  Publishes.silent h hev ⟨[e], by rw [happly]; rfl, by simpa using he⟩
    (happly ▸ framed_bus w _) hstart hend

/-- Every operation adds to the history as `Publishes` says. -/
theorem Agrees.publishes (h : w.Agrees) (op : Op) : Publishes w op := by
  cases op with
  | spawn body =>
      exact Publishes.silent h rfl ⟨[], by simp; rfl, by simp⟩ ⟨rfl, rfl, rfl, rfl⟩
        (by simp [Op.Starts]) (by simp [Op.Ends])
  | perform target action initiator => exact publishes_perform h target action initiator
  | update => exact publishes_update h
  | processEvents => exact publishes_processEvents h
  | abandon s => exact publishes_abandon h s
  | despawn e => exact publishes_despawn h e
  | destroy p => exact publishes_destroy h p
  | finish d => exact publishes_finish h d
  | publishFinished d sig =>
      exact publishes_announce h rfl rfl ⟨rfl, rfl⟩ (by simp [Op.Starts]) (by simp [Op.Ends])
  | publishCustom t d =>
      exact publishes_announce h rfl rfl ⟨rfl, rfl⟩ (by simp [Op.Starts]) (by simp [Op.Ends])
  | publishDespawned e =>
      exact publishes_announce h rfl rfl ⟨rfl, rfl⟩ (by simp [Op.Starts]) (by simp [Op.Ends])

/-- An interaction is in progress exactly when it was started and not ended. -/
theorem Chronicle.active_iff (h : Chronicle w H) (s : SessionId) :
    w.isInteractionActive s = true ↔ s ∈ startedIn H ∧ s ∉ endedIn H := by
  rw [← h.tracked s, World.isInteractionActive, List.any_eq_true, List.mem_map]
  constructor
  · rintro ⟨entry, he, hs⟩
    exact ⟨entry, he, beq_iff_eq.mp hs⟩
  · rintro ⟨entry, he, rfl⟩
    exact ⟨entry, he, beq_self_eq_true _⟩

/-- Abandoning an interaction already ended finds nothing to withdraw and changes nothing. -/
theorem Chronicle.abandon_ended (h : Chronicle w H) {s : SessionId} (hs : s ∈ endedIn H) :
    w.abandon s = (false, w) := by
  apply withdraw_of_lookup_none
  refine List.lookup_eq_none_iff.mpr fun entry he => ?_
  have hn : entry.1 ∉ endedIn H := ((h.tracked entry.1).mp (List.mem_map_of_mem he)).2
  rw [bne_iff_ne]
  rintro rfl
  exact hn hs

end World

/-- The history of a run, the events handed to the script followed by the queue, is a
chronicle. -/
theorem Scripted.chronicle {w : World} {D : List Event} (h : Scripted w D) :
    World.Chronicle w (D ++ w.bus.queue) := by
  induction h with
  | new stage settings => exact World.chronicle_new stage settings
  | step op _ ih =>
      -- the operation delivers from the front of the queue and adds at its back
      have hp := ih.agrees.publishes op
      have hc := hp.chronicle _ ih
      rwa [List.append_assoc, ← hp.fifo, ← List.append_assoc] at hc

/-- Over every run of a script, with `D` the events handed to the script so far, followed by the
queue, making up everything announced:
* every operation delivers from the front of the queue and adds what it announces at the back;
* every interaction is announced started at most once, and an operation announces the start of
  exactly the interactions it opens;
* every interaction is announced ended at most once, and an operation announces the ending of
  exactly the tracked interactions it ends, with the outcome of the way it ends them: completed
  by delivering a finished dialog with the session's signal, abandoned by abandoning it, timed
  out by the timeout sweep of a tick;
* an interaction is in progress exactly when its start is announced and its ending is not;
* in every prefix of the events handed out, each ending follows the start of its session;
* abandoning an interaction already ended answers `false` and changes nothing;
* delivering an event whose signal no tracked interaction has, such as a repeated or late
  finished dialog, only shows it to the observers. -/
theorem session_lifecycle {w : World} {D : List Event} (hrun : Scripted w D) :
    (∀ op : Op, (op.exec w).1.events ++ (op.apply w).bus.queue = w.bus.queue ++ op.published w) ∧
    (startedIn (D ++ w.bus.queue)).Nodup ∧
    (∀ (op : Op) s i t d, .interactionStarted s i t d ∈ op.published w ↔ op.Starts w s i t d) ∧
    (endedIn (D ++ w.bus.queue)).Nodup ∧
    (∀ (op : Op) s i t o, .interactionEnded s i t o ∈ op.published w ↔
      ∃ tr, (s, tr) ∈ w.sessions ∧ tr.initiator = i ∧ tr.target = t ∧ op.Ends w (s, tr) o) ∧
    (∀ s, w.isInteractionActive s = true ↔
      s ∈ startedIn (D ++ w.bus.queue) ∧ s ∉ endedIn (D ++ w.bus.queue)) ∧
    (∀ D₁, D₁ <+: D → ∀ s ∈ endedIn D₁, s ∈ startedIn D₁) ∧
    (∀ s ∈ endedIn (D ++ w.bus.queue), w.abandon s = (false, w)) ∧
    (∀ e sig, e.signal? = some sig → (∀ entry ∈ w.sessions, entry.2.signal ≠ sig) →
      w.deliverOne e = { w with bus := w.bus.observe e }) := by
  have hc := hrun.chronicle
  have hp := hc.agrees.publishes
  refine ⟨fun op => (hp op).fifo, hc.startsOnce, fun op => (hp op).starts, hc.endsOnce,
    fun op => (hp op).ends, hc.active_iff, ?_, fun s hs => hc.abandon_ended hs,
    fun e sig he hs => World.deliverOne_of_lookup_eq_none he (hc.agrees.lookup_eq_none hs)⟩
  -- the events handed out are a prefix of the history
  exact hc.ordered.prefix (List.prefix_append D _)

theorem chat_lifecycle :
    Scripted chat [] ∧
    ((∀ op : Op, (op.exec chat).1.events ++ (op.apply chat).bus.queue =
        chat.bus.queue ++ op.published chat) ∧
      (startedIn ([] ++ chat.bus.queue)).Nodup ∧
      (∀ (op : Op) s i t d,
        .interactionStarted s i t d ∈ op.published chat ↔ op.Starts chat s i t d) ∧
      (endedIn ([] ++ chat.bus.queue)).Nodup ∧
      (∀ (op : Op) s i t o, .interactionEnded s i t o ∈ op.published chat ↔
        ∃ tr, (s, tr) ∈ chat.sessions ∧ tr.initiator = i ∧ tr.target = t ∧
          op.Ends chat (s, tr) o) ∧
      (∀ s, chat.isInteractionActive s = true ↔
        s ∈ startedIn ([] ++ chat.bus.queue) ∧ s ∉ endedIn ([] ++ chat.bus.queue)) ∧
      (∀ D₁, D₁ <+: ([] : List Event) → ∀ s ∈ endedIn D₁, s ∈ startedIn D₁) ∧
      (∀ s ∈ endedIn ([] ++ chat.bus.queue), chat.abandon s = (false, chat)) ∧
      (∀ e sig, e.signal? = some sig → (∀ entry ∈ chat.sessions, entry.2.signal ≠ sig) →
        chat.deliverOne e = { chat with bus := chat.bus.observe e })) := by
  have hrun : Scripted chat [] :=
    .step (D := []) _ (.step (D := []) _ (.step (D := []) _ (.new _ _)))
  exact ⟨hrun, session_lifecycle hrun⟩

end Parley
