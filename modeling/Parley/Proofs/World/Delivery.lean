import Parley.Proofs.World.Run

/-!
# Delivering the queue

Delivery takes events from the front of the queue until it is empty. An event that raises a
completion signal hands out the registrations waiting for it and ends their sessions, each
ending queued at the back; nothing else joins the queue while delivering. So the length of the
queue plus the number of registrations falls by one in every round, the fuel `processEvents`
gives the loop is always enough, and the queue is empty afterwards (`processEvents_queue`).

`deliver_induction` is the loop's induction principle: a property of the world and of the
events delivered so far that one round keeps holds when the loop stops.
-/

namespace Parley

/-- The event announcing that a session ended. -/
def Session.ended (s : Session) (o : Outcome) : Event :=
  .interactionEnded s.id s.initiator s.target o

@[simp] theorem Session.ends?_ended (s : Session) (o : Outcome) :
    (s.ended o).ends? = some s.id := rfl

@[simp] theorem Session.signal?_ended (s : Session) (o : Outcome) :
    (s.ended o).signal? = none := rfl

namespace World

@[simp] theorem finishSession_bus (w : World) (s : Session) (o : Outcome) :
    (w.finishSession s o).bus = w.bus.publish (s.ended o) := rfl

@[simp] theorem finishSession_sessions (w : World) (s : Session) (o : Outcome) :
    (w.finishSession s o).sessions = w.sessions := rfl

@[simp] theorem finishSession_tick (w : World) (s : Session) (o : Outcome) :
    (w.finishSession s o).tick = w.tick := rfl

@[simp] theorem finishSession_supply (w : World) (s : Session) (o : Outcome) :
    (w.finishSession s o).supply = w.supply := rfl

@[simp] theorem finishSession_stage (w : World) (s : Session) (o : Outcome) :
    (w.finishSession s o).stage = w.stage := rfl

@[simp] theorem finishSession_settings (w : World) (s : Session) (o : Outcome) :
    (w.finishSession s o).settings = w.settings := rfl

/-- Ending sessions one after another queues their endings in order and leaves the rest of the
bus alone. -/
theorem foldl_finishSession_bus (ss : List Session) (o : Outcome) (w : World) :
    (ss.foldl (fun w s => w.finishSession s o) w).bus =
      { w.bus with queue := w.bus.queue ++ ss.map (·.ended o) } := by
  induction ss generalizing w with
  | nil => simp
  | cons s rest ih =>
      rw [List.foldl_cons, ih]
      simp [Bus.publish]

/-- The world `w'` keeps the table, the tick, the supply and the settings of `w`: at most the
entities, the bus and the presentation differ. Ending sessions and delivering keep to that. -/
structure Framed (w w' : World) : Prop where
  sessions : w'.sessions = w.sessions
  tick : w'.tick = w.tick
  supply : w'.supply = w.supply
  settings : w'.settings = w.settings

theorem Framed.refl (w : World) : Framed w w := ⟨rfl, rfl, rfl, rfl⟩

theorem Framed.trans {w₁ w₂ w₃ : World} (h : Framed w₁ w₂) (h' : Framed w₂ w₃) : Framed w₁ w₃ :=
  ⟨h'.sessions.trans h.sessions, h'.tick.trans h.tick, h'.supply.trans h.supply,
    h'.settings.trans h.settings⟩

theorem framed_bus (w : World) (b : Bus) : Framed w { w with bus := b } := ⟨rfl, rfl, rfl, rfl⟩

theorem framed_finishSession (w : World) (s : Session) (o : Outcome) :
    Framed w (w.finishSession s o) :=
  ⟨rfl, rfl, rfl, rfl⟩

theorem framed_foldl_finishSession (ss : List Session) (o : Outcome) (w : World) :
    Framed w (ss.foldl (fun w s => w.finishSession s o) w) :=
  List.foldlRecOn (motive := fun w' : World => Framed w w') _ _ (Framed.refl w)
    fun w' h s _ => h.trans (framed_finishSession w' s o)

/-- Delivering an event that raises no signal only shows it to the observers. -/
theorem deliverOne_of_signal?_none {w : World} {e : Event} (h : e.signal? = none) :
    w.deliverOne e = { w with bus := w.bus.observe e } := by
  unfold deliverOne
  split
  · rename_i s hs
    rw [h] at hs
    cases hs
  · rfl

/-- Delivering an event that raises a signal hands out the registrations waiting for it and
queues a completed ending for each of their sessions. -/
theorem deliverOne_bus_of_signal? {w : World} {e : Event} {s : Signal} (h : e.signal? = some s) :
    (w.deliverOne e).bus = { ((w.bus.observe e).take s).2 with
      queue := w.bus.queue ++ ((w.bus.registrations.filter (·.signal == s)).map
        (·.session)).map (·.ended .completed) } := by
  unfold deliverOne
  split
  · rename_i s' hs
    rw [h, Option.some.injEq] at hs
    subst hs
    rw [foldl_finishSession_bus, Bus.take_fst]
    rfl
  · rename_i hs
    rw [h] at hs
    cases hs

theorem deliverOne_registrations_of_signal? {w : World} {e : Event} {s : Signal}
    (h : e.signal? = some s) :
    (w.deliverOne e).bus.registrations = w.bus.registrations.filter (·.signal != s) := by
  rw [deliverOne_bus_of_signal? h]
  exact Bus.take_registrations _ s

theorem deliverOne_queue_of_signal? {w : World} {e : Event} {s : Signal}
    (h : e.signal? = some s) :
    (w.deliverOne e).bus.queue = w.bus.queue ++ ((w.bus.registrations.filter
      (·.signal == s)).map (·.session)).map (·.ended .completed) := by
  rw [deliverOne_bus_of_signal? h]

/-- Delivering one event hands out registrations but gives no number. -/
@[simp] theorem deliverOne_nextNumber (w : World) (e : Event) :
    (w.deliverOne e).bus.nextNumber = w.bus.nextNumber := by
  cases hs : e.signal? with
  | none => rw [deliverOne_of_signal?_none hs]; rfl
  | some s => rw [deliverOne_bus_of_signal? hs]; rfl

/-- Delivering an event that raises a signal nothing waits for only shows it to the
observers. -/
theorem deliverOne_of_lookup_eq_none {w : World} {e : Event} {s : Signal}
    (h : e.signal? = some s) (hl : w.bus.listeners.lookup s = none) :
    w.deliverOne e = { w with bus := w.bus.observe e } := by
  unfold deliverOne
  rw [h]
  dsimp only
  have hnone : (w.bus.observe e).listeners.lookup s = none := hl
  -- no session is handed out, and neither map changes
  have htake : (w.bus.observe e).take s = ([], w.bus.observe e) := by
    unfold Bus.take
    rw [hnone, KeyMap.erase_of_lookup_eq_none hnone]
    rfl
  rw [htake]
  rfl

/-- Delivering one event changes only the entities and the bus. -/
theorem framed_deliverOne (w : World) (e : Event) : Framed w (w.deliverOne e) := by
  unfold deliverOne
  split
  · exact (framed_bus _ _).trans (framed_foldl_finishSession _ _ _)
  · exact framed_bus _ _

@[simp] theorem deliverOne_sessions (w : World) (e : Event) :
    (w.deliverOne e).sessions = w.sessions :=
  (framed_deliverOne w e).sessions

/-- Delivering one event turns every registration it hands out into a queued ending. -/
theorem length_deliverOne (w : World) (e : Event) :
    (w.deliverOne e).bus.queue.length + (w.deliverOne e).bus.registrations.length =
      w.bus.queue.length + w.bus.registrations.length := by
  cases hs : e.signal? with
  | none => rw [deliverOne_of_signal?_none hs]; rfl
  | some s =>
      rw [deliverOne_registrations_of_signal? hs, deliverOne_queue_of_signal? hs]
      have hsplit : w.bus.registrations.length = _ :=
        List.length_eq_length_filter_add (·.signal == s)
      simp only [List.length_append, List.length_map]
      simp only [bne] at hsplit ⊢
      omega

/-- The induction principle of delivery: a property of the world and of the events delivered so
far, newest first, that every round keeps holds when the loop stops. -/
theorem deliver_induction (P : World → List Event → Prop)
    (hstep : ∀ w acc e rest, w.bus.queue = e :: rest → P w acc →
      P ({ w with bus := { w.bus with queue := rest } }.deliverOne e) (e :: acc))
    (fuel : Nat) {w : World} {acc : List Event} (h : P w acc) :
    P (w.deliver fuel acc).2 (w.deliver fuel acc).1.reverse := by
  induction fuel generalizing w acc with
  | zero => simpa [deliver] using h
  | succ fuel ih =>
      unfold deliver
      split
      · simpa using h
      · rename_i e rest hq
        exact ih (hstep w acc e rest hq h)

/-- Fuel of at least the length of the queue plus the number of registrations empties the
queue. -/
theorem deliver_queue_nil {w : World} {fuel : Nat} {acc : List Event}
    (h : w.bus.queue.length + w.bus.registrations.length ≤ fuel) :
    (w.deliver fuel acc).2.bus.queue = [] := by
  induction fuel generalizing w acc with
  | zero =>
      have hq : w.bus.queue = [] := List.eq_nil_of_length_eq_zero (by omega)
      simpa [deliver] using hq
  | succ fuel ih =>
      unfold deliver
      split
      · assumption
      · rename_i e rest hq
        apply ih
        rw [length_deliverOne]
        simp only [hq, List.length_cons] at h
        simp only [Bus.registrations_setQueue]
        omega

/-- Delivering changes only the entities and the bus. -/
theorem framed_deliver (w : World) (fuel : Nat) (acc : List Event) :
    Framed w (w.deliver fuel acc).2 :=
  deliver_induction (fun w' _ => Framed w w')
    (fun w' _ e _ _ h => (h.trans (framed_bus w' _)).trans (framed_deliverOne _ e)) fuel
    (Framed.refl w)

@[simp] theorem deliver_sessions (w : World) (fuel : Nat) (acc : List Event) :
    (w.deliver fuel acc).2.sessions = w.sessions :=
  (framed_deliver w fuel acc).sessions

@[simp] theorem deliver_tick (w : World) (fuel : Nat) (acc : List Event) :
    (w.deliver fuel acc).2.tick = w.tick :=
  (framed_deliver w fuel acc).tick

@[simp] theorem deliver_supply (w : World) (fuel : Nat) (acc : List Event) :
    (w.deliver fuel acc).2.supply = w.supply :=
  (framed_deliver w fuel acc).supply

@[simp] theorem deliver_settings (w : World) (fuel : Nat) (acc : List Event) :
    (w.deliver fuel acc).2.settings = w.settings :=
  (framed_deliver w fuel acc).settings

theorem processEvents_fst (w : World) :
    w.processEvents.1 = (w.deliver (w.bus.queue.length + w.bus.registrations.length) []).1 := rfl

theorem processEvents_bus (w : World) :
    w.processEvents.2.bus =
      (w.deliver (w.bus.queue.length + w.bus.registrations.length) []).2.bus :=
  rfl

/-- Once delivery is over, the sessions whose endings were delivered leave the table. -/
theorem processEvents_sessions (w : World) :
    w.processEvents.2.sessions =
      w.sessions.filter fun p => !(w.processEvents.1.filterMap Event.ends?).contains p.1 := by
  rw [← deliver_sessions w (w.bus.queue.length + w.bus.registrations.length) []]
  rfl

@[simp] theorem processEvents_tick (w : World) : w.processEvents.2.tick = w.tick :=
  deliver_tick _ _ _

@[simp] theorem processEvents_supply (w : World) : w.processEvents.2.supply = w.supply :=
  deliver_supply _ _ _

@[simp] theorem processEvents_settings (w : World) : w.processEvents.2.settings = w.settings :=
  deliver_settings _ _ _

/-- After delivering every queued event the queue is empty. -/
theorem processEvents_queue (w : World) : w.processEvents.2.bus.queue = [] :=
  deliver_queue_nil (Nat.le_refl _)

/-- Delivering one event keeps the bus's maps in agreement: it hands a signal out and announces
endings. -/
theorem consistent_deliverOne {w : World} (h : w.bus.Consistent) (e : Event) :
    (w.deliverOne e).bus.Consistent := by
  have hobs : (w.bus.observe e).Consistent := h.congr rfl rfl (Nat.le_refl _)
  cases hs : e.signal? with
  | none =>
      rw [deliverOne_of_signal?_none hs]
      exact hobs
  | some s =>
      rw [deliverOne_bus_of_signal? hs]
      exact (hobs.take s).congr rfl rfl (Nat.le_refl _)

theorem consistent_deliver {w : World} (h : w.bus.Consistent) (fuel : Nat) (acc : List Event) :
    (w.deliver fuel acc).2.bus.Consistent :=
  deliver_induction (fun w _ => w.bus.Consistent)
    (fun w' _ e rest _ hw =>
      consistent_deliverOne (w := { w' with bus := { w'.bus with queue := rest } })
        (hw.congr rfl rfl (Nat.le_refl _)) e) fuel h

theorem consistent_processEvents {w : World} (h : w.bus.Consistent) :
    w.processEvents.2.bus.Consistent := by
  rw [processEvents_bus]
  exact consistent_deliver h _ _

end World

end Parley
