import Parley.Proofs.World.Delivery

/-!
# Delivering in order

Delivery pops events from the front of the queue while the sessions it fires push their endings
at the back, so the loop's length cannot be read off its text. `handedOut` says without the loop
which sessions a stretch of events fires, and in which order: an event that raises a signal hands
out, oldest first, the registrations still waiting for it. A fired session announces one ending,
and endings raise no signal; observers only watch.

So delivering the queue `q` of a bus whose registrations are `R` hands back `q` in order followed
by the endings of the `f` sessions `handedOut R q` names, in the order they were announced, and
leaves the queue empty (`World.drained`). The loop makes exactly `q + f` rounds: given `n`
rounds it has delivered the first `n` of those events and stops with an empty queue exactly when
`q + f ≤ n`, and the backlog, the length of the queue plus the number of registrations, falls by
one in every round.
-/

namespace Parley

/-- Whether some event among `events` raises a signal. -/
def raises (events : List Event) (sig : Signal) : Bool :=
  (events.filterMap Event.signal?).contains sig

@[simp] theorem raises_nil (sig : Signal) : raises [] sig = false := rfl

theorem raises_cons_of_none {e : Event} (h : e.signal? = none) (events : List Event)
    (sig : Signal) : raises (e :: events) sig = raises events sig := by
  simp only [raises, List.filterMap_cons, h]

theorem raises_cons_of_some {e : Event} {s : Signal} (h : e.signal? = some s)
    (events : List Event) (sig : Signal) :
    raises (e :: events) sig = (sig == s || raises events sig) := by
  simp only [raises, List.filterMap_cons, h, List.contains_cons]

@[simp] theorem raises_reverse (events : List Event) (sig : Signal) :
    raises events.reverse sig = raises events sig := by
  simp [raises, List.filterMap_reverse]

/-- Events that raise no signal, put after others, raise nothing more. -/
theorem raises_append_of_silent {es₂ : List Event} (h : ∀ e ∈ es₂, e.signal? = none)
    (es₁ : List Event) (sig : Signal) : raises (es₁ ++ es₂) sig = raises es₁ sig := by
  have hnone : es₂.filterMap Event.signal? = [] := List.filterMap_eq_nil_iff.mpr h
  simp only [raises, List.filterMap_append, hnone, List.append_nil]

/-- The sessions that delivering `events`, in order, hands out from the registrations `rs`: an
event that raises a signal hands out, oldest first, the registrations still waiting for it. -/
def handedOut : List Registration → List Event → List Session
  | _, [] => []
  | rs, e :: es =>
    match e.signal? with
    | some s =>
      (rs.filter (·.signal == s)).map (·.session) ++ handedOut (rs.filter (·.signal != s)) es
    | none => handedOut rs es

section HandedOut

variable {e : Event} {es : List Event}

@[simp] theorem handedOut_nil (rs : List Registration) : handedOut rs [] = [] := rfl

theorem handedOut_cons_of_none (h : e.signal? = none) (rs : List Registration)
    (es : List Event) : handedOut rs (e :: es) = handedOut rs es := by
  rw [handedOut, h]

theorem handedOut_cons_of_some {s : Signal} (h : e.signal? = some s) (rs : List Registration)
    (es : List Event) :
    handedOut rs (e :: es) =
      (rs.filter (·.signal == s)).map (·.session) ++ handedOut (rs.filter (·.signal != s)) es := by
  rw [handedOut, h]

/-- Events that raise no signal hand nothing out. -/
theorem handedOut_of_silent (h : ∀ e ∈ es, e.signal? = none) (rs : List Registration) :
    handedOut rs es = [] := by
  induction es with
  | nil => rfl
  | cons e es ih =>
      rw [handedOut_cons_of_none (h e List.mem_cons_self)]
      exact ih fun x hx => h x (List.mem_cons_of_mem _ hx)

/-- Endings raise no signal. -/
theorem silent_map_ended (ss : List Session) (o : Outcome) :
    ∀ e ∈ ss.map (·.ended o), e.signal? = none := by
  simp

/-- One stretch of events after another: the second hands out from the registrations the first
left waiting. -/
theorem handedOut_append (rs : List Registration) (es₁ es₂ : List Event) :
    handedOut rs (es₁ ++ es₂) =
      handedOut rs es₁ ++ handedOut (rs.filter fun r => !raises es₁ r.signal) es₂ := by
  induction es₁ generalizing rs with
  | nil => simp
  | cons e es₁ ih =>
      cases hs : e.signal? with
      | none =>
          rw [List.cons_append, handedOut_cons_of_none hs, handedOut_cons_of_none hs, ih]
          simp only [raises_cons_of_none hs]
      | some s =>
          -- what `e` leaves waiting, and then what the rest of the stretch leaves
          have hleft : ((rs.filter (·.signal != s)).filter fun r => !raises es₁ r.signal) =
              rs.filter fun r => !raises (e :: es₁) r.signal := by
            rw [List.filter_filter]
            apply List.filter_congr
            intro r _
            simp only [raises_cons_of_some hs, bne, Bool.not_or, Bool.and_comm]
          rw [List.cons_append, handedOut_cons_of_some hs, handedOut_cons_of_some hs, ih, hleft,
            List.append_assoc]

/-- Every registration is handed out at most once. -/
theorem length_handedOut_le (rs : List Registration) (es : List Event) :
    (handedOut rs es).length ≤ rs.length := by
  induction es generalizing rs with
  | nil => simp
  | cons e es ih =>
      cases hs : e.signal? with
      | none =>
          rw [handedOut_cons_of_none hs]
          exact ih rs
      | some s =>
          rw [handedOut_cons_of_some hs, List.length_append, List.length_map]
          have hsplit : rs.length = _ := List.length_eq_length_filter_add (·.signal == s)
          have hrest := ih (rs.filter (·.signal != s))
          simp only [bne] at hrest ⊢
          omega

/-- Order aside, a stretch of events hands out the registrations whose signal it raises. -/
theorem handedOut_perm (rs : List Registration) (es : List Event) :
    (handedOut rs es).Perm ((rs.filter fun r => raises es r.signal).map (·.session)) := by
  induction es generalizing rs with
  | nil => simp
  | cons e es ih =>
      cases hs : e.signal? with
      | none =>
          rw [handedOut_cons_of_none hs]
          simp only [raises_cons_of_none hs]
          exact ih rs
      | some s =>
          -- the registrations raised split into those of `s`, handed out first, and the others
          have hsplit := List.filter_append_perm (·.signal == s)
            (rs.filter fun r => raises (e :: es) r.signal)
          have hnow : ((rs.filter fun r => raises (e :: es) r.signal).filter (·.signal == s)) =
              rs.filter (·.signal == s) := by
            rw [List.filter_filter]
            apply List.filter_congr
            intro r _
            simp only [raises_cons_of_some hs]
            cases r.signal == s <;> simp
          have hlater : ((rs.filter fun r => raises (e :: es) r.signal).filter
              fun r => !(r.signal == s)) =
              (rs.filter (·.signal != s)).filter fun r => raises es r.signal := by
            rw [List.filter_filter, List.filter_filter]
            apply List.filter_congr
            intro r _
            simp only [raises_cons_of_some hs, bne]
            cases r.signal == s <;> simp
          rw [hnow, hlater] at hsplit
          rw [handedOut_cons_of_some hs]
          refine ((ih _).append_left _).trans ?_
          rw [← List.map_append]
          exact hsplit.map _

end HandedOut

/-- What is left to deliver: the queued events and the registrations still waiting. -/
def Bus.backlog (b : Bus) : Nat := b.queue.length + b.registrations.length

namespace World

/-- What delivering the queue of `w` hands back: the queue, then the endings of the sessions it
fires, in the order they are announced. -/
def drained (w : World) : List Event :=
  w.bus.queue ++ (handedOut w.bus.registrations w.bus.queue).map (·.ended .completed)

/-- The endings among what delivering hands back fire nothing more. -/
theorem handedOut_drained (w : World) :
    handedOut w.bus.registrations w.drained = handedOut w.bus.registrations w.bus.queue := by
  rw [drained, handedOut_append, handedOut_of_silent (silent_map_ended _ _), List.append_nil]

/-- The endings among what delivering hands back raise no signal. -/
theorem raises_drained (w : World) (sig : Signal) : raises w.drained sig = raises w.bus.queue sig :=
  raises_append_of_silent (silent_map_ended _ _) _ _

theorem length_drained (w : World) :
    w.drained.length = w.bus.queue.length + (handedOut w.bus.registrations w.bus.queue).length := by
  simp [drained]

/-- While delivering from `w₀`, with `acc` delivered so far, newest first: the registrations
still waiting are those of `w₀` whose signal nothing delivered raised, and what was delivered
followed by the queue is the queue of `w₀` followed by the endings of the sessions handed out so
far, in the order they were handed out. -/
structure Firing (w₀ w : World) (acc : List Event) : Prop where
  registrations : w.bus.registrations = w₀.bus.registrations.filter fun r => !raises acc r.signal
  order : acc.reverse ++ w.bus.queue =
    w₀.bus.queue ++ (handedOut w₀.bus.registrations acc.reverse).map (·.ended .completed)

theorem firing_start (w₀ : World) : Firing w₀ w₀ [] where
  registrations := by simp
  order := by simp

section Firing

variable {w₀ w : World} {acc : List Event}

/-- One round of delivery: the event taken from the front hands out the registrations still
waiting for its signal, and their endings join the back of the queue. -/
theorem Firing.deliverOne {rest : List Event} {e : Event} (h : Firing w₀ w acc)
    (hq : w.bus.queue = e :: rest) :
    Firing w₀ ({ w with bus := { w.bus with queue := rest } }.deliverOne e) (e :: acc) := by
  have hmove : (e :: acc).reverse ++ rest = acc.reverse ++ w.bus.queue := by simp [hq]
  -- the sessions handed out so far, then those `e` hands out now
  have hfire : handedOut w₀.bus.registrations (e :: acc).reverse =
      handedOut w₀.bus.registrations acc.reverse ++ handedOut w.bus.registrations [e] := by
    rw [List.reverse_cons, handedOut_append, h.registrations]
    simp only [raises_reverse]
  cases hs : e.signal? with
  | none =>
      rw [deliverOne_of_signal?_none hs]
      constructor
      · simpa [raises_cons_of_none hs] using h.registrations
      · rw [hfire, handedOut_cons_of_none hs, handedOut_nil, List.append_nil]
        exact hmove.trans h.order
  | some s =>
      constructor
      · rw [deliverOne_registrations_of_signal? hs, Bus.registrations_setQueue, h.registrations,
          List.filter_filter]
        apply List.filter_congr
        intro r _
        simp only [raises_cons_of_some hs, bne, Bool.not_or]
      · rw [deliverOne_queue_of_signal? hs, hfire, handedOut_cons_of_some hs, handedOut_nil,
          List.append_nil, List.map_append]
        dsimp only
        rw [Bus.registrations_setQueue, ← List.append_assoc, hmove, h.order, List.append_assoc]

theorem Firing.deliver (h : Firing w₀ w acc) (fuel : Nat) :
    Firing w₀ (w.deliver fuel acc).2 (w.deliver fuel acc).1.reverse :=
  deliver_induction (fun w acc => Firing w₀ w acc) (fun _ _ _ _ hq hf => hf.deliverOne hq) fuel h

/-- What was delivered, followed by the queue, is a prefix of what delivering the queue of `w₀`
hands back. -/
theorem Firing.prefix (h : Firing w₀ w acc) : acc.reverse ++ w.bus.queue <+: w₀.drained := by
  rw [h.order, drained]
  apply List.prefix_append_right_inj _ |>.mpr
  apply List.IsPrefix.map
  -- what was delivered is a prefix of the queue of `w₀`, or the queue followed by endings
  have hacc : acc.reverse <+: w₀.bus.queue ++
      (handedOut w₀.bus.registrations acc.reverse).map (·.ended .completed) :=
    h.order ▸ List.prefix_append _ _
  generalize hE : (handedOut w₀.bus.registrations acc.reverse).map (·.ended .completed) = E
    at hacc
  rcases List.prefix_or_prefix_of_prefix hacc (List.prefix_append _ _) with hpre | hpre
  · obtain ⟨t, ht⟩ := hpre
    rw [← ht, handedOut_append]
    exact List.prefix_append _ _
  · obtain ⟨t, ht⟩ := hpre
    have ht' : t <+: E := by
      rw [← ht] at hacc
      exact (List.prefix_append_right_inj _).mp hacc
    have hsilent : ∀ e ∈ t, e.signal? = none := by
      intro e he
      have hmem := ht'.subset he
      rw [← hE] at hmem
      exact silent_map_ended _ _ e hmem
    rw [← ht, handedOut_append, handedOut_of_silent hsilent, List.append_nil]

/-- The queue is empty exactly when everything delivering the queue of `w₀` hands back has been
delivered. -/
theorem Firing.queue_eq_nil_iff (h : Firing w₀ w acc) :
    w.bus.queue = [] ↔ acc.reverse = w₀.drained := by
  constructor
  · intro hq
    have hacc := h.order
    rw [hq, List.append_nil] at hacc
    -- what was handed out is fired by the queue of `w₀`; the endings delivered fire nothing
    have hfired : handedOut w₀.bus.registrations acc.reverse =
        handedOut w₀.bus.registrations w₀.bus.queue := by
      conv_lhs => rw [hacc]
      rw [handedOut_append, handedOut_of_silent (silent_map_ended _ _), List.append_nil]
    rw [hacc, hfired, drained]
  · intro hacc
    have horder := h.order
    rw [hacc, handedOut_drained] at horder
    exact List.append_right_eq_self.mp horder

/-- With `acc` delivered so far, `fuel` more rounds deliver the events that follow of what
delivering the queue of `w₀` hands back, as many as the fuel allows. -/
theorem Firing.deliver_fst (h : Firing w₀ w acc) (fuel : Nat) :
    (w.deliver fuel acc).1 = w₀.drained.take (acc.length + fuel) := by
  induction fuel generalizing w acc with
  | zero =>
      rw [World.deliver, Nat.add_zero, ← List.length_reverse]
      exact List.prefix_iff_eq_take.mp ((List.prefix_append _ _).trans h.prefix)
  | succ fuel ih =>
      unfold World.deliver
      split
      · -- the queue is empty: everything was delivered
        rename_i hq
        have hall := h.queue_eq_nil_iff.mp hq
        rw [hall, List.take_of_length_le]
        rw [← hall, List.length_reverse]
        omega
      · rename_i e rest hq
        rw [ih (h.deliverOne hq), List.length_cons, Nat.add_right_comm, Nat.add_assoc]

theorem Firing.deliver_queue_eq_nil_iff (h : Firing w₀ w acc) (fuel : Nat) :
    (w.deliver fuel acc).2.bus.queue = [] ↔ w₀.drained.length ≤ acc.length + fuel := by
  have hf := h.deliver fuel
  rw [hf.queue_eq_nil_iff, List.reverse_reverse, h.deliver_fst, List.take_eq_self_iff]

end Firing

/-- Every round of delivery lowers the backlog by one, the event it takes. -/
theorem backlog_deliver (w : World) (fuel : Nat) (acc : List Event) :
    (w.deliver fuel acc).2.bus.backlog + (w.deliver fuel acc).1.length =
      w.bus.backlog + acc.length := by
  -- a round takes one event from the queue and turns each registration it fires into one
  have hd := @deliver_induction
    (fun w' acc' => w'.bus.backlog + acc'.length = w.bus.backlog + acc.length)
    (fun w' acc' e rest hq hb => by
      have hround := length_deliverOne { w' with bus := { w'.bus with queue := rest } } e
      simp only [Bus.backlog, hq, List.length_cons, Bus.registrations_setQueue] at hround hb ⊢
      omega) fuel w acc rfl
  simpa using hd

/-- Delivery hands out registrations but gives no number. -/
theorem nextNumber_deliver (w : World) (fuel : Nat) (acc : List Event) :
    (w.deliver fuel acc).2.bus.nextNumber = w.bus.nextNumber :=
  @deliver_induction (fun w' _ => w'.bus.nextNumber = w.bus.nextNumber)
    (fun _ _ e _ _ hn => (deliverOne_nextNumber _ e).trans hn) fuel w acc rfl

/-- Delivering the queue hands back all it fires: the fuel it is given covers the queue and every
registration, and every registration is handed out at most once. -/
theorem processEvents_drained (w : World) : w.processEvents.1 = w.drained := by
  have henough : w.drained.length ≤ w.bus.queue.length + w.bus.registrations.length := by
    rw [length_drained]
    have := length_handedOut_le w.bus.registrations w.bus.queue
    omega
  rw [processEvents_fst, (firing_start w).deliver_fst, List.length_nil, Nat.zero_add,
    List.take_of_length_le henough]

end World

end Parley
