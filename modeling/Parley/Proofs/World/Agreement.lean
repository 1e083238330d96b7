import Parley.Proofs.World.Delivery

/-!
# The table of interactions agrees with the bus

Between operations the registrations of the bus, read off its listeners map, are exactly the
entries of the table of interactions in progress, in the same order: the registration of each
entry waits under the entry's number and signal, and holds the session with the entry's
identifier, parties and dialog (`World.Agrees`). The bus's two maps agree with each other, and
each entry's signal was drawn for it alone, so its registration is the only one in its signal's
list. While the queue is delivered, the agreement holds of the entries whose ending has not been
queued yet (`World.Delivering`): a completion signal takes its registrations at once, but their
entries leave the table only when delivery is over.

Main statement: `table_agrees_with_bus`. It follows that the number of interactions in progress
is the number of numbers in the signals map, that abandoning an interaction succeeds exactly
when it is in progress, and that taking back the registration of a tracked interaction never
fails, so the branch of withdrawing that finds the table ahead of the bus is never taken.
-/

namespace Parley

/-- The registration a table entry stands for: the entry's number and signal, and the session
with the entry's identifier, parties and dialog. -/
def registrationOf (entry : SessionId × Tracked) : Registration :=
  ⟨entry.2.registration, entry.2.signal,
    ⟨entry.1, entry.2.initiator, entry.2.target, ⟨entry.2.dialog, entry.2.signal⟩⟩⟩

@[simp] theorem number_registrationOf (entry : SessionId × Tracked) :
    (registrationOf entry).number = entry.2.registration := rfl

@[simp] theorem signal_registrationOf (entry : SessionId × Tracked) :
    (registrationOf entry).signal = entry.2.signal := rfl

@[simp] theorem session_registrationOf (entry : SessionId × Tracked) :
    (registrationOf entry).session =
      ⟨entry.1, entry.2.initiator, entry.2.target, ⟨entry.2.dialog, entry.2.signal⟩⟩ := rfl

/-- The sessions whose endings are among some events. -/
def endedIn (events : List Event) : List SessionId := events.filterMap Event.ends?

@[simp] theorem endedIn_nil : endedIn [] = [] := rfl

@[simp] theorem endedIn_append (l₁ l₂ : List Event) :
    endedIn (l₁ ++ l₂) = endedIn l₁ ++ endedIn l₂ := List.filterMap_append

@[simp] theorem endedIn_map_ended (ss : List Session) (o : Outcome) :
    endedIn (ss.map (·.ended o)) = ss.map (·.id) := by
  simp [endedIn, List.filterMap_map, Function.comp_def]

theorem endedIn_eq_nil {events : List Event} (h : ∀ e ∈ events, e.ends? = none) :
    endedIn events = [] :=
  List.filterMap_eq_nil_iff.mpr h

/-- Whether a table entry still waits: its ending is not among the events. -/
def waiting (events : List Event) (entry : SessionId × Tracked) : Bool :=
  !(endedIn events).contains entry.1

theorem waiting_eq_true {events : List Event} {entry : SessionId × Tracked} :
    waiting events entry = true ↔ entry.1 ∉ endedIn events := by
  simp [waiting]

theorem waiting_perm {l₁ l₂ : List Event} (h : l₁.Perm l₂) : waiting l₁ = waiting l₂ := by
  funext entry
  simp only [waiting, endedIn, (h.filterMap Event.ends?).contains_eq]

theorem waiting_append {l₁ l₂ : List Event} (entry : SessionId × Tracked) :
    waiting (l₁ ++ l₂) entry = (waiting l₁ entry && waiting l₂ entry) := by
  simp [waiting, Bool.not_or]

/-- A completion signal taken from the waiting entries: the entries still waiting afterwards are
those of another signal. The table's identifiers are distinct, so the endings queued for the
taken sessions end no other entry. -/
theorem filter_signal_waiting (S : List (SessionId × Tracked)) (hids : (S.map (·.1)).Nodup)
    (events : List Event) (s : Signal) :
    ((S.filter (waiting events)).map registrationOf).filter (·.signal != s) =
      (S.filter (waiting (events ++ ((((S.filter (waiting events)).map registrationOf).filter
        (·.signal == s)).map (·.session)).map (·.ended .completed)))).map registrationOf := by
  rw [List.filter_map, List.filter_filter]
  congr 1
  apply List.filter_congr
  intro entry hentry
  rw [waiting_append]
  cases hw : waiting events entry with
  | false => simp
  | true =>
      -- the entry is taken exactly when its own signal is raised
      have htaken : entry.1 ∈ endedIn (((((S.filter (waiting events)).map registrationOf).filter
          (·.signal == s)).map (·.session)).map (·.ended .completed)) ↔ entry.2.signal = s := by
        rw [endedIn_map_ended, List.map_map]
        simp only [List.mem_map, List.mem_filter, Function.comp_def, beq_iff_eq]
        constructor
        · rintro ⟨r, ⟨⟨other, hother, rfl⟩, hs⟩, hid⟩
          have hsame : other = entry := List.inj_on_of_nodup_map hids hother.1 hentry hid
          subst hsame
          exact hs
        · intro hs
          exact ⟨registrationOf entry, ⟨⟨entry, ⟨hentry, hw⟩, rfl⟩, hs⟩, rfl⟩
      have hwait : waiting (((((S.filter (waiting events)).map registrationOf).filter
          (·.signal == s)).map (·.session)).map (·.ended .completed)) entry =
            !(entry.2.signal == s) := by
        rw [Bool.eq_iff_iff, waiting_eq_true, htaken]
        simp
      rw [hwait]
      simp [bne]

theorem mem_of_lookup {S : List (SessionId × Tracked)} {id : SessionId} {t : Tracked}
    (h : S.lookup id = some t) : (id, t) ∈ S := by
  obtain ⟨l₁, l₂, rfl, -⟩ := List.lookup_eq_some_iff.mp h
  simp

/-- In a list whose values under `f` are distinct, the members with the value of a member are
that member alone. -/
theorem filter_eq_singleton_of_nodup {α β : Type} [DecidableEq β] {f : α → β} {l : List α}
    (hnd : (l.map f).Nodup) {a : α} (ha : a ∈ l) : l.filter (fun x => f x == f a) = [a] := by
  induction l with
  | nil => cases ha
  | cons x rest ih =>
      rw [List.map_cons, List.nodup_cons] at hnd
      rcases List.mem_cons.mp ha with rfl | ha
      · have hrest : rest.filter (fun y => f y == f a) = [] :=
          List.filter_eq_nil_iff.mpr fun y hy hya =>
            hnd.1 (beq_iff_eq.mp hya ▸ List.mem_map_of_mem hy)
        rw [List.filter_cons_of_pos (p := fun y => f y == f a) (beq_self_eq_true _), hrest]
      · have hne : f x ≠ f a := fun he => hnd.1 (he ▸ List.mem_map_of_mem ha)
        rw [List.filter_cons_of_neg (p := fun y => f y == f a) (by simpa using hne),
          ih hnd.2 ha]

namespace World

variable {w w' : World}

/-- Between operations: the registrations are the table's entries in order, the bus's maps
agree, each entry has a signal of its own drawn from the supply, and no tracked interaction has
its ending queued. -/
structure Agrees (w : World) : Prop where
  registrations : w.bus.registrations = w.sessions.map registrationOf
  consistent : w.bus.Consistent
  ids : (w.sessions.map (·.1)).Nodup
  signals : (w.sessions.map (·.2.signal)).Nodup
  fresh : ∀ entry ∈ w.sessions, entry.1.val < w.supply
  signalsDrawn : ∀ entry ∈ w.sessions, entry.2.signal.val < w.supply
  started : ∀ entry ∈ w.sessions, entry.2.startedAt ≤ w.tick
  quiet : ∀ entry ∈ w.sessions, entry.1 ∉ endedIn w.bus.queue
  /-- Every queued ending is of a session already drawn from the supply. -/
  drawn : ∀ id ∈ endedIn w.bus.queue, id.val < w.supply

/-- While delivering, with `acc` delivered so far: the registrations are the entries whose
ending is neither delivered nor queued. -/
structure Delivering (w : World) (acc : List Event) : Prop where
  registrations : w.bus.registrations =
    (w.sessions.filter (waiting (acc ++ w.bus.queue))).map registrationOf
  ids : (w.sessions.map (·.1)).Nodup

theorem agrees_new (stage : Stage) (settings : InteractionSettings) :
    (World.new stage settings).Agrees :=
  ⟨rfl, Bus.consistent_empty, List.nodup_nil, List.nodup_nil, nofun, nofun, nofun, nofun, nofun⟩

/-- The agreement reads the two maps, the next number, the endings queued, the table, the tick
and the supply. -/
theorem Agrees.congr (h : w.Agrees) (hl : w'.bus.listeners = w.bus.listeners)
    (hs : w'.bus.signals = w.bus.signals) (hn : w.bus.nextNumber ≤ w'.bus.nextNumber)
    (hq : endedIn w'.bus.queue = endedIn w.bus.queue) (hsess : w'.sessions = w.sessions)
    (ht : w.tick ≤ w'.tick) (hsup : w.supply ≤ w'.supply) : w'.Agrees where
  registrations := by rw [Bus.registrations_eq, hl, hsess, ← Bus.registrations_eq]; exact h.registrations
  consistent := h.consistent.congr hl hs hn
  ids := by rw [hsess]; exact h.ids
  signals := by rw [hsess]; exact h.signals
  fresh entry he := Nat.lt_of_lt_of_le (h.fresh entry (hsess ▸ he)) hsup
  signalsDrawn entry he := Nat.lt_of_lt_of_le (h.signalsDrawn entry (hsess ▸ he)) hsup
  started entry he := Nat.le_trans (h.started entry (hsess ▸ he)) ht
  quiet entry he := hq ▸ h.quiet entry (hsess ▸ he)
  drawn id hid := Nat.lt_of_lt_of_le (h.drawn id (hq ▸ hid)) hsup

/-- Announcing an event that ends no session keeps the agreement. -/
theorem Agrees.publish (h : w.Agrees) {e : Event} (he : e.ends? = none) : (w.publish e).Agrees :=
  h.congr rfl rfl (Nat.le_refl _) (by simp [endedIn, he]) rfl (Nat.le_refl _) (Nat.le_refl _)

theorem withdraw_of_lookup_none {id : SessionId} (hl : w.sessions.lookup id = none)
    (o : Outcome) : w.withdraw id o = (false, w) := by
  unfold withdraw
  rw [hl]

/-- The entries' registration numbers are distinct, as the registrations' are. -/
theorem Agrees.numbers_nodup (h : w.Agrees) : (w.sessions.map (·.2.registration)).Nodup := by
  have hnd := h.consistent.nodup
  rwa [h.registrations, List.map_map] at hnd

/-- A tracked interaction's registration waits in the bus. -/
theorem Agrees.registrationOf_mem (h : w.Agrees) {entry : SessionId × Tracked}
    (he : entry ∈ w.sessions) : registrationOf entry ∈ w.bus.registrations := by
  rw [h.registrations]
  exact List.mem_map_of_mem he

/-- A tracked interaction's registration is the only one in its signal's list: no other entry
has its signal. -/
theorem Agrees.lookup_signal (h : w.Agrees) {entry : SessionId × Tracked}
    (he : entry ∈ w.sessions) :
    w.bus.listeners.lookup entry.2.signal =
      some [(entry.2.registration, (registrationOf entry).session)] := by
  have hfilter : w.bus.registrations.filter (·.signal == entry.2.signal) = [registrationOf entry] := by
    rw [h.registrations, List.filter_map]
    exact congrArg (List.map registrationOf) (filter_eq_singleton_of_nodup h.signals he)
  rw [Bus.filter_signal_eq] at hfilter
  cases hl : w.bus.listeners.lookup entry.2.signal with
  | none =>
      rw [hl] at hfilter
      cases hfilter
  | some regs =>
      rw [hl, Option.getD_some, List.map_eq_singleton_iff] at hfilter
      obtain ⟨⟨n, s⟩, rfl, hp⟩ := hfilter
      simp only [registrationOf, Registration.mk.injEq] at hp
      obtain ⟨rfl, -, rfl⟩ := hp
      rfl

/-- Taking back the registration of a tracked interaction hands out its session and removes the
entry's number and its signal's list. -/
theorem Agrees.unlisten (h : w.Agrees) {entry : SessionId × Tracked} (he : entry ∈ w.sessions) :
    w.bus.unlisten entry.2.registration = (some (registrationOf entry).session, { w.bus with
      signals := w.bus.signals.erase entry.2.registration
      listeners := w.bus.listeners.erase entry.2.signal }) :=
  Bus.unlisten_of_lookup_eq_singleton (h.consistent.signalled _ (h.registrationOf_mem he))
    (h.lookup_signal he)

/-- Removing a tracked interaction's signal from the listeners map leaves the registrations of
the other entries. -/
theorem Agrees.registrations_erase (h : w.Agrees) {id : SessionId} {t : Tracked}
    (he : (id, t) ∈ w.sessions) (signals : KeyMap Nat Signal) :
    ({ w.bus with signals := signals, listeners := w.bus.listeners.erase t.signal } :
      Bus).registrations = (w.sessions.filter (·.1 != id)).map registrationOf := by
  rw [Bus.registrations_of_listeners_eq_erase (b := w.bus) rfl, h.registrations, List.filter_map]
  congr 1
  apply List.filter_congr
  intro x hx
  -- an entry has the withdrawn signal exactly when it is the withdrawn entry
  have hiff : x.2.signal = t.signal ↔ x.1 = id := by
    constructor
    · intro hs
      rw [List.inj_on_of_nodup_map h.signals hx he hs]
    · intro hid
      rw [List.inj_on_of_nodup_map h.ids hx he hid]
  simp only [Function.comp_apply, signal_registrationOf, bne, beq_eq_decide, hiff]

/-- Withdrawing a tracked interaction: its entry leaves the table, its number the signals map
and its signal's list the listeners map, its dialog is dismissed, and it ends with the outcome
given. -/
theorem Agrees.withdraw_eq (h : w.Agrees) {id : SessionId} {t : Tracked}
    (hl : w.sessions.lookup id = some t) (o : Outcome) :
    w.withdraw id o = (true, ({ w with
      sessions := w.sessions.filter (·.1 != id)
      bus := { w.bus with
        signals := w.bus.signals.erase t.registration
        listeners := w.bus.listeners.erase t.signal }
      stage := w.stage.dismiss t.dialog }).finishSession (registrationOf (id, t)).session o) := by
  unfold withdraw
  rw [hl]
  dsimp only
  rw [h.unlisten (mem_of_lookup hl)]
  rfl

theorem Agrees.withdraw (h : w.Agrees) (id : SessionId) (o : Outcome) :
    (w.withdraw id o).2.Agrees := by
  cases hl : w.sessions.lookup id with
  | none => rw [withdraw_of_lookup_none hl]; exact h
  | some t =>
      have he := mem_of_lookup hl
      have hsub : (w.sessions.filter (·.1 != id)).Sublist w.sessions := List.filter_sublist
      -- the queue gains the ending of the withdrawn session only
      have hq : ∀ x, x ∈ endedIn (w.bus.queue ++ [(registrationOf (id, t)).session.ended o]) ↔
          x ∈ endedIn w.bus.queue ∨ x = id := by
        simp [endedIn]
      -- the bus left is the one taking back the entry's number leaves
      have hcons : ({ w.bus with
          signals := w.bus.signals.erase t.registration
          listeners := w.bus.listeners.erase t.signal } : Bus).Consistent := by
        have hc := h.consistent.unlisten t.registration
        rwa [h.unlisten he] at hc
      rw [h.withdraw_eq hl]
      refine ⟨h.registrations_erase he (w.bus.signals.erase t.registration),
        hcons.congr rfl rfl (Nat.le_refl _),
        h.ids.sublist (hsub.map _), h.signals.sublist (hsub.map _),
        fun x hx => h.fresh x (hsub.subset hx), fun x hx => h.signalsDrawn x (hsub.subset hx),
        fun x hx => h.started x (hsub.subset hx), ?_, ?_⟩
      · intro x hx
        obtain ⟨hx, hne⟩ := List.mem_filter.mp hx
        show x.1 ∉ endedIn (w.bus.queue ++ [(registrationOf (id, t)).session.ended o])
        rw [hq]
        rintro (hin | rfl)
        · exact h.quiet x hx hin
        · simp at hne
      · intro x hx
        change x ∈ endedIn (w.bus.queue ++ [(registrationOf (id, t)).session.ended o]) at hx
        rcases (hq x).mp hx with hin | rfl
        · exact h.drawn x hin
        · exact h.fresh _ he

theorem Agrees.delivering (h : w.Agrees) : w.Delivering [] where
  registrations := by
    rw [h.registrations, List.nil_append]
    congr 1
    refine (List.filter_eq_self.mpr ?_).symm
    intro x hx
    exact waiting_eq_true.mpr (h.quiet x hx)
  ids := h.ids

/-- One round of delivery keeps the agreement of the registrations with the entries still
waiting: a completion signal takes exactly the registrations of the entries it ends. -/
theorem Delivering.deliverOne {acc rest : List Event} {e : Event} (h : w.Delivering acc)
    (hq : w.bus.queue = e :: rest) :
    ({ w with bus := { w.bus with queue := rest } }.deliverOne e).Delivering (e :: acc) := by
  -- the event delivered moves from the queue to the delivered events
  have hmove : ∀ more,
      waiting (e :: acc ++ (rest ++ more)) = waiting (acc ++ w.bus.queue ++ more) := by
    intro more
    apply waiting_perm
    rw [hq, List.append_assoc, List.cons_append, List.cons_append]
    exact List.perm_middle.symm
  cases hs : e.signal? with
  | none =>
      rw [deliverOne_of_signal?_none hs]
      refine ⟨?_, h.ids⟩
      have hsame := hmove []
      simp only [List.append_nil] at hsame
      show w.bus.registrations = (w.sessions.filter (waiting (e :: acc ++ rest))).map registrationOf
      rw [hsame]
      exact h.registrations
  | some s =>
      refine ⟨?_, by simpa using h.ids⟩
      rw [deliverOne_registrations_of_signal? hs, deliverOne_queue_of_signal? hs,
        deliverOne_sessions]
      dsimp only
      rw [Bus.registrations_setQueue, hmove, h.registrations]
      exact filter_signal_waiting _ h.ids _ s

theorem Delivering.deliver {acc : List Event} (h : w.Delivering acc) (fuel : Nat) :
    (w.deliver fuel acc).2.Delivering (w.deliver fuel acc).1.reverse :=
  deliver_induction (fun w acc => w.Delivering acc) (fun _ _ _ _ hq hw => hw.deliverOne hq) fuel h

theorem Agrees.processEvents (h : w.Agrees) : w.processEvents.2.Agrees := by
  have hd := h.delivering.deliver (w.bus.queue.length + w.bus.registrations.length)
  -- the entries that leave the table are those whose ending was delivered
  have hsess : w.processEvents.2.sessions =
      w.sessions.filter (waiting w.processEvents.1.reverse) := by
    rw [processEvents_sessions, waiting_perm (List.reverse_perm _)]
    rfl
  have hreg : w.processEvents.2.bus.registrations =
      w.processEvents.2.sessions.map registrationOf := by
    have hr := hd.registrations
    rw [← processEvents_bus, ← processEvents_fst, processEvents_queue, List.append_nil,
      deliver_sessions] at hr
    rw [hr, hsess]
  have hsub : w.processEvents.2.sessions.Sublist w.sessions := hsess ▸ List.filter_sublist
  refine ⟨hreg, consistent_processEvents h.consistent, ?_, h.signals.sublist (hsub.map _), ?_, ?_,
    ?_, ?_, ?_⟩
  · rw [hsess]
    exact (deliver_sessions w _ [] ▸ hd.ids).sublist (List.filter_sublist.map _)
  · intro x hx
    rw [processEvents_supply]
    exact h.fresh x (hsub.subset hx)
  · intro x hx
    rw [processEvents_supply]
    exact h.signalsDrawn x (hsub.subset hx)
  · intro x hx
    rw [processEvents_tick]
    exact h.started x (hsub.subset hx)
  · intro x _
    simp [processEvents_queue]
  · intro x hx
    simp [processEvents_queue] at hx

/-- Counting a tick and ticking the presentation keeps the agreement: the presentation announces
only finished dialogs. -/
theorem Agrees.tickStage (h : w.Agrees) : ({ w with tick := w.tick + 1 }.tickStage).Agrees := by
  have hnil : endedIn w.stage.tick.1 = [] := by
    refine endedIn_eq_nil fun e he => ?_
    obtain ⟨d, rfl⟩ := Stage.mem_tick_events he
    rfl
  rw [tickStage_eq]
  refine h.congr rfl rfl (Nat.le_refl _) ?_ rfl (Nat.le_succ _) (Nat.le_refl _)
  simp only [endedIn_append, hnil, List.append_nil]

/-- Ticking the world keeps the agreement: delivery keeps it, and so does withdrawing the
sessions that timed out. -/
theorem Agrees.update (h : w.Agrees) : w.update.2.Agrees := by
  rw [update_snd]
  have hexp := expire_induction World.Agrees (fun _ id hw => hw.withdraw id .timedOut)
    h.tickStage.processEvents
  dsimp only
  split
  · exact hexp.processEvents
  · exact hexp

/-- Nothing waits for a signal no tracked session has. -/
theorem Agrees.lookup_eq_none (h : w.Agrees) {sig : Signal}
    (hs : ∀ entry ∈ w.sessions, entry.2.signal ≠ sig) : w.bus.listeners.lookup sig = none := by
  cases hl : w.bus.listeners.lookup sig with
  | none => rfl
  | some regs =>
      -- a list of the signal would hold the registration of an entry with that signal
      obtain ⟨p, hp⟩ := List.exists_mem_of_ne_nil _ (h.consistent.list_ne_nil hl)
      have hmem : (⟨p.1, sig, p.2⟩ : Registration) ∈ w.bus.registrations :=
        Bus.mem_registrations.mpr ⟨regs, hl, hp⟩
      rw [h.registrations] at hmem
      obtain ⟨entry, he, hentry⟩ := List.mem_map.mp hmem
      have hsig : entry.2.signal = sig := by rw [← signal_registrationOf, hentry]
      exact absurd hsig (hs entry he)

/-- Nothing waits for the signal an interaction started now would draw. -/
theorem Agrees.lookup_nextSignal (h : w.Agrees) : w.bus.listeners.lookup w.nextHandle.signal = none := by
  refine h.lookup_eq_none fun entry he hsig => ?_
  have hlt := h.signalsDrawn entry he
  rw [hsig] at hlt
  simp [nextHandle] at hlt

/-- Starting an interaction keeps the agreement: a session that is registered is also tracked,
under an identifier and a signal drawn fresh, and one whose dialog cannot be placed is
registered and taken back, leaving both maps as they were. -/
theorem Agrees.start (h : w.Agrees) (i t : Entity) : (w.start i t).2.Agrees := by
  have hspec := start_spec w i t
  generalize w.start i t = r at hspec
  have hfresh := Bus.unlisten_listen_of_fresh h.lookup_nextSignal h.consistent.lookup_nextNumber
    (w.nextSession i t)
  cases hspec with
  | refused => exact h
  | notCreated =>
      exact h.congr (by simp) (by simp) (by simp) (by simp) (by simp) (by simp) (by simp)
  | notPlaced =>
      exact h.congr (by simp [hfresh]) (by simp [hfresh]) (by simp [hfresh]) (by simp [hfresh])
        (by simp) (by simp) (by simp)
  | placed mind stage stage' =>
      -- announcing the start queues no ending
      have hq : endedIn (w.bus.queue ++ [.interactionStarted w.nextId i t w.nextHandle.id]) =
          endedIn w.bus.queue := by
        simp [endedIn, Event.ends?]
      refine ⟨?_, ?_, ?_, ?_, ?_, ?_, ?_, ?_, ?_⟩
      · simp only [publish_bus, Bus.publish_registrations, publish_sessions, List.map_append,
          Bus.listen_registrations_of_lookup_eq_none h.lookup_nextSignal, h.registrations]
        rfl
      · exact (h.consistent.listen w.nextHandle.signal (w.nextSession i t)).congr rfl rfl
          (Nat.le_refl _)
      · -- the new identifier is above every identifier drawn before
        simp only [publish_sessions]
        rw [List.map_append, List.map_singleton, ← List.concat_eq_append]
        refine h.ids.concat fun hmem => ?_
        obtain ⟨entry, hentry, heq⟩ := List.mem_map.mp hmem
        have := h.fresh entry hentry
        rw [heq] at this
        simp [nextId] at this
      · -- so is the new signal
        simp only [publish_sessions]
        rw [List.map_append, List.map_singleton, ← List.concat_eq_append]
        refine h.signals.concat fun hmem => ?_
        obtain ⟨entry, hentry, heq⟩ := List.mem_map.mp hmem
        have := h.signalsDrawn entry hentry
        rw [heq] at this
        simp [nextTracked, nextHandle] at this
      · intro x hx
        simp only [publish_sessions, List.mem_append, List.mem_singleton] at hx
        rcases hx with hx | rfl
        · have := h.fresh x hx
          simp
          omega
        · simp [nextId]
      · intro x hx
        simp only [publish_sessions, List.mem_append, List.mem_singleton] at hx
        rcases hx with hx | rfl
        · have := h.signalsDrawn x hx
          simp
          omega
        · simp [nextTracked, nextHandle]
      · intro x hx
        simp only [publish_sessions, List.mem_append, List.mem_singleton] at hx
        rcases hx with hx | rfl
        · simpa using h.started x hx
        · simp [nextTracked]
      · intro x hx
        simp only [publish_sessions, List.mem_append, List.mem_singleton] at hx
        show x.1 ∉ endedIn (w.bus.queue ++ [.interactionStarted w.nextId i t w.nextHandle.id])
        rw [hq]
        rcases hx with hx | rfl
        · exact h.quiet x hx
        · -- every queued ending is of a session drawn before
          intro hin
          have := h.drawn _ hin
          simp [nextId] at this
      · intro x hx
        change x ∈ endedIn (w.bus.queue ++ [.interactionStarted w.nextId i t w.nextHandle.id]) at hx
        rw [hq] at hx
        show x.val < w.supply + 3
        have := h.drawn x hx
        omega

theorem Agrees.despawn (h : w.Agrees) (e : Entity) : (w.despawn e).2.Agrees := by
  unfold World.despawn
  split
  · refine Agrees.publish ?_ rfl
    exact h.congr rfl rfl (Nat.le_refl _) rfl rfl (Nat.le_refl _) (Nat.le_refl _)
  · exact h

theorem Agrees.finishDialog (h : w.Agrees) (d : DialogId) : (w.finishDialog d).2.Agrees := by
  unfold World.finishDialog
  split
  · rename_i e stage hf
    obtain ⟨handle, rfl⟩ := Stage.finish_event hf
    refine Agrees.publish ?_ rfl
    exact h.congr rfl rfl (Nat.le_refl _) rfl rfl (Nat.le_refl _) (Nat.le_refl _)
  · exact h

/-- Every operation of a script keeps the agreement. -/
theorem Agrees.apply (h : w.Agrees) (op : Op) : (op.apply w).Agrees := by
  cases op with
  | spawn body => exact h.congr rfl rfl (Nat.le_refl _) rfl rfl (Nat.le_refl _) (Nat.le_refl _)
  | perform target action initiator =>
      rcases target.performAction_cases w action initiator with hw | ⟨i, t, -, -, -, hw⟩
      · rw [Op.apply_perform, hw]
        exact h
      · rw [Op.apply_perform, hw]
        exact h.start i t
  | update => exact h.update
  | processEvents => exact h.processEvents
  | abandon id => exact h.withdraw id .abandoned
  | despawn e => exact h.despawn e
  | destroy p =>
      rw [Op.apply_destroy, Participant.destroy_world]
      split
      · exact h.despawn _
      · exact h
  | finish d => exact h.finishDialog d
  | publishFinished d s => exact h.publish (by rfl)
  | publishCustom t d => exact h.publish (by rfl)
  | publishDespawned e => exact h.publish (by rfl)

/-- A tracked interaction's number waits in the signals map, for the entry's signal. -/
theorem Agrees.lookup_registration (h : w.Agrees) {entry : SessionId × Tracked}
    (he : entry ∈ w.sessions) : w.bus.signals.lookup entry.2.registration = some entry.2.signal :=
  h.consistent.signalled _ (h.registrationOf_mem he)

theorem Agrees.isListening (h : w.Agrees) {entry : SessionId × Tracked}
    (he : entry ∈ w.sessions) : w.bus.isListening entry.2.registration = true := by
  unfold Bus.isListening
  rw [h.lookup_registration he]
  rfl

/-- Each registration in the listeners map is tracked by exactly one entry. -/
theorem Agrees.tracked_unique (h : w.Agrees) {r : Registration} (hr : r ∈ w.bus.registrations) :
    ∃! entry, entry ∈ w.sessions ∧ entry.2.registration = r.number := by
  rw [h.registrations] at hr
  obtain ⟨entry, he, rfl⟩ := List.mem_map.mp hr
  refine ⟨entry, ⟨he, rfl⟩, ?_⟩
  rintro other ⟨ho, hn⟩
  exact List.inj_on_of_nodup_map h.numbers_nodup ho he hn

/-- Each number in the signals map is tracked by exactly one entry. -/
theorem Agrees.listening_tracked (h : w.Agrees) {n : Nat} (hn : w.bus.isListening n = true) :
    ∃! entry, entry ∈ w.sessions ∧ entry.2.registration = n := by
  obtain ⟨r, hr, rfl⟩ := (h.consistent.isListening_iff n).mp hn
  exact h.tracked_unique hr

/-- As many interactions are in progress as numbers wait in the signals map. -/
theorem Agrees.activeSessions_eq (h : w.Agrees) : w.activeSessions = w.bus.listenerCount := by
  unfold activeSessions
  rw [h.consistent.listenerCount_eq, h.registrations, List.length_map]

/-- Taking back a tracked interaction's registration always hands its session back. -/
theorem Agrees.unlisten_isSome (h : w.Agrees) {id : SessionId} {t : Tracked}
    (hl : w.sessions.lookup id = some t) : (w.bus.unlisten t.registration).1.isSome := by
  rw [h.unlisten (mem_of_lookup hl)]
  rfl

/-- Abandoning an interaction succeeds exactly when it is in progress. -/
theorem Agrees.abandon_fst (h : w.Agrees) (id : SessionId) :
    (w.abandon id).1 = w.isInteractionActive id := by
  unfold abandon isInteractionActive
  cases hl : w.sessions.lookup id with
  | none =>
      rw [withdraw_of_lookup_none hl, eq_comm, List.any_eq_false]
      intro entry he hid
      have hne := List.lookup_eq_none_iff.mp hl entry he
      simp only [bne_iff_ne, ne_eq] at hne
      exact hne (beq_iff_eq.mp hid).symm
  | some t =>
      rw [h.withdraw_eq hl, eq_comm]
      exact List.any_eq_true.mpr ⟨(id, t), mem_of_lookup hl, by simp⟩

end World

theorem Reachable.agrees {w : World} (h : Reachable w) : w.Agrees := by
  induction h with
  | new stage settings => exact World.agrees_new stage settings
  | step op _ ih => exact ih.apply op

/-- In every world a script reaches, the table of interactions in progress and the bus agree,
and so do the bus's two maps. Every tracked interaction's number waits in the signals map for the
entry's signal, whose list in the listeners map holds that number alone, with the session of the
entry's identifier, parties and dialog; the interaction started no later than now. Every waiting
number, and every registration in the listeners map, is tracked by exactly one entry. So as many
interactions are in progress as numbers wait, abandoning one succeeds exactly when it is in
progress, and taking back the registration of a tracked interaction always hands its session
back. -/
theorem table_agrees_with_bus {w : World} (h : Reachable w) :
    w.bus.Consistent ∧
    (∀ entry ∈ w.sessions, w.bus.isListening entry.2.registration = true ∧
      w.bus.signals.lookup entry.2.registration = some entry.2.signal ∧
      w.bus.listeners.lookup entry.2.signal = some [(entry.2.registration,
        ⟨entry.1, entry.2.initiator, entry.2.target, ⟨entry.2.dialog, entry.2.signal⟩⟩)] ∧
      entry.2.startedAt ≤ w.tick) ∧
    (∀ n, w.bus.isListening n = true →
      ∃! entry, entry ∈ w.sessions ∧ entry.2.registration = n) ∧
    (∀ r ∈ w.bus.registrations, ∃! entry, entry ∈ w.sessions ∧ entry.2.registration = r.number) ∧
    w.activeSessions = w.bus.listenerCount ∧
    (∀ id, (w.abandon id).1 = w.isInteractionActive id) ∧
    (∀ id t, w.sessions.lookup id = some t → (w.bus.unlisten t.registration).1.isSome) := by
  have ha := h.agrees
  exact ⟨ha.consistent, fun entry he => ⟨ha.isListening he, ha.lookup_registration he,
    ha.lookup_signal he, ha.started entry he⟩, fun n hn => ha.listening_tracked hn,
    fun r hr => ha.tracked_unique hr, ha.activeSessions_eq, ha.abandon_fst,
    fun id t hl => ha.unlisten_isSome hl⟩

/-- A character with a schedule and a dialogue. -/
def chatter : Body := { schedule := some ⟨"idle", 0⟩, mind := some ⟨"c", "C", "hello", 0, none⟩ }

/-- Two characters, the first addressing the second. -/
def chat : World :=
  (Op.perform (.bound .npc ⟨1⟩) .normal (.bound .npc ⟨0⟩)).apply
    ((Op.spawn chatter).apply ((Op.spawn chatter).apply (World.new (Stage.new 640 none) {})))

theorem chat_table_agrees :
    Reachable chat ∧
    (chat.bus.Consistent ∧
    (∀ entry ∈ chat.sessions, chat.bus.isListening entry.2.registration = true ∧
      chat.bus.signals.lookup entry.2.registration = some entry.2.signal ∧
      chat.bus.listeners.lookup entry.2.signal = some [(entry.2.registration,
        ⟨entry.1, entry.2.initiator, entry.2.target, ⟨entry.2.dialog, entry.2.signal⟩⟩)] ∧
      entry.2.startedAt ≤ chat.tick) ∧
    (∀ n, chat.bus.isListening n = true →
      ∃! entry, entry ∈ chat.sessions ∧ entry.2.registration = n) ∧
    (∀ r ∈ chat.bus.registrations,
      ∃! entry, entry ∈ chat.sessions ∧ entry.2.registration = r.number) ∧
    chat.activeSessions = chat.bus.listenerCount ∧
    (∀ id, (chat.abandon id).1 = chat.isInteractionActive id) ∧
    (∀ id t, chat.sessions.lookup id = some t → (chat.bus.unlisten t.registration).1.isSome)) := by
  have hreach : Reachable chat := .step _ (.step _ (.step _ (.new _ _)))
  exact ⟨hreach, table_agrees_with_bus hreach⟩

end Parley
