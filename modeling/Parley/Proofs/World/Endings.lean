import Parley.Proofs.World.History

/-!
# How interactions end

Three things end an interaction: delivering its completion signal, abandoning it, and the
timeout sweep of a tick. Each announces the endings of the sessions it ends, once each and with
its own outcome, of exactly the entries it picks from the table (`EndsExactly`), and takes those
entries out of the table while the others stay (`Retires`).

Delivery is the loop of the three. While it runs, the events delivered followed by the queue are
always the queue it started from followed by completions, one for each tracked session whose
signal was delivered so far (`World.Draining`). Completions raise no signal, so delivering the
queue completes exactly the sessions whose signals were queued when it began
(`World.Agrees.processEvents_spec`). A tick delivers twice around its timeout sweep; the second
delivery has only timeouts to deliver and completes nothing (`World.Agrees.update_spec`).
-/

namespace Parley

/-- The ending of a table entry's session with an outcome. -/
def endingOf (entry : SessionId × Tracked) (o : Outcome) : Event :=
  .interactionEnded entry.1 entry.2.initiator entry.2.target o

@[simp] theorem ended_registrationOf (entry : SessionId × Tracked) (o : Outcome) :
    (registrationOf entry).session.ended o = endingOf entry o := rfl

@[simp] theorem ends?_endingOf (entry : SessionId × Tracked) (o : Outcome) :
    (endingOf entry o).ends? = some entry.1 := rfl

@[simp] theorem starts?_endingOf (entry : SessionId × Tracked) (o : Outcome) :
    (endingOf entry o).starts? = none := rfl

@[simp] theorem signal?_endingOf (entry : SessionId × Tracked) (o : Outcome) :
    (endingOf entry o).signal? = none := rfl

@[simp] theorem endedIn_map_endingOf (L : List (SessionId × Tracked)) (o : Outcome) :
    endedIn (L.map (endingOf · o)) = L.map (·.1) := by
  simp [endedIn, List.filterMap_map, Function.comp_def]

theorem interactionEnded_eq_endingOf {s : SessionId} {i t : Entity} {o o' : Outcome}
    {entry : SessionId × Tracked} :
    Event.interactionEnded s i t o = endingOf entry o' ↔
      s = entry.1 ∧ i = entry.2.initiator ∧ t = entry.2.target ∧ o = o' := by
  simp [endingOf]

/-- An identifier stays among those of a table filtered by some events exactly when it was there
and is not ended by them. -/
theorem mem_map_filter_waiting {S : List (SessionId × Tracked)} {P : List Event}
    {s : SessionId} :
    s ∈ (S.filter (waiting P)).map (·.1) ↔ s ∈ S.map (·.1) ∧ s ∉ endedIn P := by
  simp only [List.mem_map, List.mem_filter, waiting_eq_true]
  constructor
  · rintro ⟨entry, ⟨he, hw⟩, rfl⟩
    exact ⟨⟨entry, he, rfl⟩, hw⟩
  · rintro ⟨⟨entry, he, rfl⟩, hw⟩
    exact ⟨entry, ⟨he, hw⟩, rfl⟩

/-- In a table with distinct identifiers, an entry is found under its identifier. -/
theorem lookup_of_mem {S : List (SessionId × Tracked)} (hids : (S.map (·.1)).Nodup)
    {entry : SessionId × Tracked} (he : entry ∈ S) : S.lookup entry.1 = some entry.2 := by
  cases hl : S.lookup entry.1 with
  | none =>
      have hne := List.lookup_eq_none_iff.mp hl entry he
      simp at hne
  | some t =>
      have hsame : (entry.1, t) = entry :=
        List.inj_on_of_nodup_map hids (mem_of_lookup hl) he rfl
      rw [← hsame]

/-- The events `P` announce, once each, the endings with outcome `o` of exactly the entries of
`table` that `sel` picks. -/
structure EndsExactly (table : List (SessionId × Tracked)) (o : Outcome)
    (sel : SessionId × Tracked → Prop) (P : List Event) : Prop where
  nodup : (endedIn P).Nodup
  mem : ∀ e, e ∈ P ↔ ∃ entry ∈ table, sel entry ∧ e = endingOf entry o

namespace EndsExactly

variable {table : List (SessionId × Tracked)} {o : Outcome} {sel : SessionId × Tracked → Prop}
  {P : List Event}

theorem nil (table : List (SessionId × Tracked)) (o : Outcome) :
    EndsExactly table o (fun _ => False) [] :=
  ⟨List.nodup_nil, by simp⟩

/-- Picking the same entries of the table some other way. -/
theorem congr {sel' : SessionId × Tracked → Prop} (h : EndsExactly table o sel P)
    (hsel : ∀ entry ∈ table, sel entry ↔ sel' entry) : EndsExactly table o sel' P where
  nodup := h.nodup
  mem e := by
    rw [h.mem]
    constructor
    · rintro ⟨entry, he, hs, rfl⟩
      exact ⟨entry, he, (hsel entry he).mp hs, rfl⟩
    · rintro ⟨entry, he, hs, rfl⟩
      exact ⟨entry, he, (hsel entry he).mpr hs, rfl⟩

/-- When nothing is picked, nothing is announced. -/
theorem eq_nil (h : EndsExactly table o sel P) (hsel : ∀ entry ∈ table, ¬ sel entry) : P = [] :=
  List.eq_nil_iff_forall_not_mem.mpr fun e he => by
    obtain ⟨entry, hentry, hs, -⟩ := (h.mem e).mp he
    exact hsel entry hentry hs

theorem startedIn_eq_nil (h : EndsExactly table o sel P) : startedIn P = [] :=
  Parley.startedIn_eq_nil fun e he => by
    obtain ⟨entry, -, -, rfl⟩ := (h.mem e).mp he
    rfl

/-- Endings raise no signal: no dialog finishes among them. -/
theorem dialogFinished_not_mem (h : EndsExactly table o sel P) (d : DialogId) (sig : Signal) :
    .dialogFinished d sig ∉ P := fun hm => by
  obtain ⟨entry, -, -, heq⟩ := (h.mem _).mp hm
  cases heq

/-- The dialogs finished among some events followed by endings are those among the events. -/
theorem finished_mem_append (h : EndsExactly table o sel P) {L : List Event} {sig : Signal} :
    (∃ d, .dialogFinished d sig ∈ L ++ P) ↔ ∃ d, .dialogFinished d sig ∈ L := by
  simp only [List.mem_append]
  constructor
  · rintro ⟨d, hd | hd⟩
    · exact ⟨d, hd⟩
    · exact absurd hd (h.dialogFinished_not_mem d sig)
  · rintro ⟨d, hd⟩
    exact ⟨d, .inl hd⟩

theorem mem_endedIn (h : EndsExactly table o sel P) {s : SessionId} :
    s ∈ endedIn P ↔ ∃ entry ∈ table, sel entry ∧ entry.1 = s := by
  unfold endedIn
  rw [List.mem_filterMap]
  constructor
  · rintro ⟨e, he, hs⟩
    obtain ⟨entry, hentry, hsel, rfl⟩ := (h.mem e).mp he
    exact ⟨entry, hentry, hsel, Option.some.inj hs⟩
  · rintro ⟨entry, hentry, hsel, rfl⟩
    exact ⟨endingOf entry o, (h.mem _).mpr ⟨entry, hentry, hsel, rfl⟩, rfl⟩

/-- With distinct identifiers in the table, an entry still waits after `P` exactly when it is
not picked. -/
theorem waiting_eq_true (h : EndsExactly table o sel P) (hids : (table.map (·.1)).Nodup)
    {entry : SessionId × Tracked} (he : entry ∈ table) :
    waiting P entry = true ↔ ¬ sel entry := by
  rw [Parley.waiting_eq_true, h.mem_endedIn]
  constructor
  · intro hn hsel
    exact hn ⟨entry, he, hsel, rfl⟩
  · rintro hn ⟨other, ho, hsel, hid⟩
    obtain rfl := List.inj_on_of_nodup_map hids ho he hid
    exact hn hsel

/-- The endings announced: those of the picked entries, with their parties and the outcome. -/
theorem ended_mem_iff (h : EndsExactly table o sel P) {s : SessionId} {i t : Entity}
    {o' : Outcome} :
    .interactionEnded s i t o' ∈ P ↔
      ∃ tr, (s, tr) ∈ table ∧ sel (s, tr) ∧ tr.initiator = i ∧ tr.target = t ∧ o' = o := by
  rw [h.mem]
  constructor
  · rintro ⟨⟨s', tr⟩, hentry, hsel, heq⟩
    obtain ⟨rfl, rfl, rfl, rfl⟩ := interactionEnded_eq_endingOf.mp heq
    exact ⟨tr, hentry, hsel, rfl, rfl, rfl⟩
  · rintro ⟨tr, hentry, hsel, rfl, rfl, rfl⟩
    exact ⟨(s, tr), hentry, hsel, rfl⟩

/-- The endings, in table order, of the entries a test picks. -/
theorem map_filter (hids : (table.map (·.1)).Nodup) (p : SessionId × Tracked → Bool) :
    EndsExactly table o (fun entry => p entry = true) ((table.filter p).map (endingOf · o)) where
  nodup := by
    rw [endedIn_map_endingOf]
    exact hids.sublist (List.filter_sublist.map _)
  mem e := by
    simp only [List.mem_map, List.mem_filter]
    constructor
    · rintro ⟨entry, ⟨he, hp⟩, rfl⟩
      exact ⟨entry, he, hp, rfl⟩
    · rintro ⟨entry, he, hp, rfl⟩
      exact ⟨entry, ⟨he, hp⟩, rfl⟩

/-- Endings of entries picked two ways that never pick the same entry. -/
theorem append {sel' : SessionId × Tracked → Prop} {P' : List Event}
    (h : EndsExactly table o sel P) (h' : EndsExactly table o sel' P')
    (hids : (table.map (·.1)).Nodup) (hdis : ∀ entry ∈ table, sel entry → ¬ sel' entry) :
    EndsExactly table o (fun entry => sel entry ∨ sel' entry) (P ++ P') where
  nodup := by
    rw [endedIn_append]
    refine List.nodup_append.mpr ⟨h.nodup, h'.nodup, ?_⟩
    rintro s hs _ hs' rfl
    obtain ⟨entry, he, hsel, rfl⟩ := h.mem_endedIn.mp hs
    obtain ⟨other, ho, hsel', hid⟩ := h'.mem_endedIn.mp hs'
    obtain rfl := List.inj_on_of_nodup_map hids ho he hid
    exact hdis other ho hsel hsel'
  mem e := by
    rw [List.mem_append, h.mem, h'.mem]
    constructor
    · rintro (⟨entry, he, hs, rfl⟩ | ⟨entry, he, hs, rfl⟩)
      · exact ⟨entry, he, .inl hs, rfl⟩
      · exact ⟨entry, he, .inr hs, rfl⟩
    · rintro ⟨entry, he, hs | hs, rfl⟩
      · exact .inl ⟨entry, he, hs, rfl⟩
      · exact .inr ⟨entry, he, hs, rfl⟩

end EndsExactly

namespace World

variable {w w' w'' : World}

/-- From `w` to `w'` the events `P` were announced: they start no interaction and end distinct
tracked ones, which leave the table while the other entries stay. The table still agrees with
the bus, and the supply of identifiers only grows. -/
structure Retires (w w' : World) (P : List Event) : Prop where
  agrees : w'.Agrees
  starts : startedIn P = []
  nodup : (endedIn P).Nodup
  tracked : ∀ s ∈ endedIn P, s ∈ w.sessions.map (·.1)
  sessions : w'.sessions = w.sessions.filter (waiting P)
  supply : w.supply ≤ w'.supply

/-- Events that neither start nor end an interaction, with the table left alone. -/
theorem Retires.silent {P : List Event} (ha : w'.Agrees) (hst : startedIn P = [])
    (hen : endedIn P = []) (hs : w'.sessions = w.sessions) (hsup : w.supply ≤ w'.supply) :
    Retires w w' P where
  agrees := ha
  starts := hst
  nodup := hen ▸ List.nodup_nil
  tracked s hs := by simp [hen] at hs
  sessions := by
    rw [hs, eq_comm, List.filter_eq_self]
    intro entry _
    simp [waiting, hen]
  supply := hsup

theorem Retires.of_endsExactly {o : Outcome} {sel : SessionId × Tracked → Prop} {P : List Event}
    (hE : EndsExactly w.sessions o sel P) (ha : w'.Agrees)
    (hs : w'.sessions = w.sessions.filter (waiting P)) (hsup : w.supply ≤ w'.supply) :
    Retires w w' P where
  agrees := ha
  starts := hE.startedIn_eq_nil
  nodup := hE.nodup
  tracked s hs := by
    obtain ⟨entry, he, -, rfl⟩ := hE.mem_endedIn.mp hs
    exact List.mem_map_of_mem he
  sessions := hs
  supply := hsup

/-- One stretch after another: the sessions the second ends were still tracked after the first,
so no session is ended twice. -/
theorem Retires.trans {P P' : List Event} (h : Retires w w' P) (h' : Retires w' w'' P') :
    Retires w w'' (P ++ P') where
  agrees := h'.agrees
  starts := by rw [startedIn_append, h.starts, h'.starts, List.append_nil]
  nodup := by
    rw [endedIn_append]
    refine List.nodup_append.mpr ⟨h.nodup, h'.nodup, ?_⟩
    rintro s hs _ hs' rfl
    have hmem := h'.tracked s hs'
    rw [h.sessions, mem_map_filter_waiting] at hmem
    exact hmem.2 hs
  tracked s hs := by
    rw [endedIn_append] at hs
    rcases List.mem_append.mp hs with hs | hs
    · exact h.tracked s hs
    · have hmem := h'.tracked s hs
      rw [h.sessions, mem_map_filter_waiting] at hmem
      exact hmem.1
  sessions := by
    rw [h'.sessions, h.sessions, List.filter_filter]
    apply List.filter_congr
    intro entry _
    rw [waiting_append, Bool.and_comm]
  supply := Nat.le_trans h.supply h'.supply

/-- Withdrawing a tracked interaction announces its ending with the outcome given and takes its
entry out of the table. -/
theorem Agrees.withdraw_spec (h : w.Agrees) {entry : SessionId × Tracked}
    (he : entry ∈ w.sessions) (o : Outcome) :
    (w.withdraw entry.1 o).1 = true ∧
      (w.withdraw entry.1 o).2.bus.queue = w.bus.queue ++ [endingOf entry o] ∧
      EndsExactly w.sessions o (· = entry) [endingOf entry o] ∧
      Retires w (w.withdraw entry.1 o).2 [endingOf entry o] := by
  have hl := lookup_of_mem h.ids he
  have hE : EndsExactly w.sessions o (· = entry) [endingOf entry o] :=
    ⟨List.nodup_singleton _, fun e => by simp [he]⟩
  refine ⟨by rw [h.withdraw_eq hl], by rw [h.withdraw_eq hl]; rfl, hE, ?_⟩
  refine Retires.of_endsExactly hE (h.withdraw entry.1 o) ?_ ?_
  · rw [h.withdraw_eq hl]
    apply List.filter_congr
    intro x _
    simp [waiting, endedIn, bne, beq_eq_decide]
  · rw [h.withdraw_eq hl]
    exact Nat.le_refl _

/-- Withdrawing, one after another, tracked interactions in table order, as the timeout sweep
does: each is still tracked when its turn comes, since the identifiers are distinct. -/
theorem Agrees.foldl_withdraw {o : Outcome} {F : Bool × World → SessionId → Bool × World}
    (hF : ∀ acc id, F acc id = (acc.1 || (acc.2.withdraw id o).1, (acc.2.withdraw id o).2))
    (L : List (SessionId × Tracked)) (b : Bool) (h : w.Agrees) (hL : L.Sublist w.sessions) :
    ((L.map (·.1)).foldl F (b, w)).1 = (b || !(L.map (endingOf · o)).isEmpty) ∧
      ((L.map (·.1)).foldl F (b, w)).2.bus.queue = w.bus.queue ++ L.map (endingOf · o) ∧
      Retires w ((L.map (·.1)).foldl F (b, w)).2 (L.map (endingOf · o)) := by
  induction L generalizing w b with
  | nil =>
      refine ⟨by simp, by simp, Retires.silent h rfl rfl rfl (Nat.le_refl _)⟩
  | cons entry L ih =>
      have he : entry ∈ w.sessions := hL.subset List.mem_cons_self
      obtain ⟨hb, hq, -, hr⟩ := h.withdraw_spec he o
      -- the rest of the list is still tracked once the first entry is withdrawn
      have hrest : L.Sublist (w.withdraw entry.1 o).2.sessions := by
        have hnd : ((entry :: L).map (·.1)).Nodup := h.ids.sublist (hL.map _)
        rw [hr.sessions]
        have hkeep : L.filter (waiting [endingOf entry o]) = L := by
          refine List.filter_eq_self.mpr fun x hx => ?_
          have hne : x.1 ≠ entry.1 := by
            intro heq
            rw [List.map_cons] at hnd
            exact (List.nodup_cons.mp hnd).1 (by rw [← heq]; exact List.mem_map_of_mem hx)
          simp [waiting, endedIn, hne]
        rw [← hkeep]
        exact (List.sublist_of_cons_sublist hL).filter _
      obtain ⟨hb', hq', hr'⟩ := ih (b || true) hr.agrees hrest
      rw [List.map_cons, List.foldl_cons, hF]
      simp only [hb]
      refine ⟨by simpa using hb', ?_, hr.trans hr'⟩
      rw [hq', hq]
      simp

/-- The timeout sweep withdraws, in table order, every tracked interaction at least the timeout
old, announcing each as timed out; it answers whether it withdrew any. -/
theorem Agrees.expire_spec (h : w.Agrees) : ∃ T,
    EndsExactly w.sessions .timedOut
      (fun entry => ∃ k, w.settings.timeoutTicks = some k ∧ k ≤ w.tick - entry.2.startedAt) T ∧
    w.expire.1 = !T.isEmpty ∧ w.expire.2.bus.queue = w.bus.queue ++ T ∧
    Retires w w.expire.2 T := by
  unfold expire
  split
  · rename_i hk
    refine ⟨[], (EndsExactly.nil _ _).congr fun entry _ => by simp [hk], rfl, by simp,
      Retires.silent h rfl rfl rfl (Nat.le_refl _)⟩
  · rename_i k hk
    dsimp only
    refine ⟨_, ?ends, h.foldl_withdraw (by intro _ _; rfl) _ false List.filter_sublist⟩
    refine (EndsExactly.map_filter h.ids _).congr ?_
    rintro ⟨id, tr⟩ _
    simp [hk]

/-- While delivering the queue `q` of a world whose table is `table`, with `acc` delivered so
far, newest first: the registrations agree with the entries still waiting, none of the table's
sessions has its ending in `q`, and the events delivered followed by the queue are `q` followed
by one completion for each entry whose signal was delivered. -/
structure Draining (table : List (SessionId × Tracked)) (q : List Event) (w : World)
    (acc : List Event) : Prop where
  delivering : w.Delivering acc
  sessions : w.sessions = table
  quiet : ∀ entry ∈ table, entry.1 ∉ endedIn q
  completions : ∃ P, acc.reverse ++ w.bus.queue = q ++ P ∧
    EndsExactly table .completed (fun entry => ∃ d, .dialogFinished d entry.2.signal ∈ acc) P

theorem Agrees.draining (h : w.Agrees) : Draining w.sessions w.bus.queue w [] where
  delivering := h.delivering
  sessions := rfl
  quiet := h.quiet
  completions := ⟨[], by simp, (EndsExactly.nil _ _).congr fun entry _ => by simp⟩

section Draining

variable {table : List (SessionId × Tracked)} {q acc : List Event}

/-- An entry still waits exactly when no dialog with its signal was delivered yet. -/
theorem Draining.waiting_iff (h : Draining table q w acc) {entry : SessionId × Tracked}
    (he : entry ∈ table) :
    waiting (acc ++ w.bus.queue) entry = true ↔
      ¬∃ d, .dialogFinished d entry.2.signal ∈ acc := by
  obtain ⟨P, hP, hE⟩ := h.completions
  have hids : (table.map (·.1)).Nodup := h.sessions ▸ h.delivering.ids
  have hperm : (acc ++ w.bus.queue).Perm (q ++ P) := by
    rw [← hP]
    exact (List.reverse_perm acc).symm.append_right _
  have hq : waiting q entry = true := Parley.waiting_eq_true.mpr (h.quiet entry he)
  rw [waiting_perm hperm, waiting_append, hq, Bool.true_and, hE.waiting_eq_true hids he]

/-- The completions a signal queues, read off the table. -/
theorem map_ended_filter_signal (S : List (SessionId × Tracked)) (sig : Signal) (o : Outcome) :
    (((S.map registrationOf).filter (·.signal == sig)).map (·.session)).map (·.ended o) =
      (S.filter fun entry => entry.2.signal == sig).map (endingOf · o) := by
  simp [List.filter_map, Function.comp_def, Session.ended, endingOf]

/-- One round of delivery: a finished dialog completes the entries of its signal still waiting,
and their endings join the completions. -/
theorem Draining.deliverOne {rest : List Event} {e : Event} (h : Draining table q w acc)
    (hq : w.bus.queue = e :: rest) :
    Draining table q ({ w with bus := { w.bus with queue := rest } }.deliverOne e) (e :: acc) where
  delivering := h.delivering.deliverOne hq
  sessions := by rw [deliverOne_sessions]; exact h.sessions
  quiet := h.quiet
  completions := by
    obtain ⟨P, hP, hE⟩ := h.completions
    have hmove : (e :: acc).reverse ++ rest = acc.reverse ++ w.bus.queue := by simp [hq]
    cases hs : e.signal? with
    | none =>
        refine ⟨P, ?_, hE.congr fun entry _ => ?_⟩
        · rw [deliverOne_of_signal?_none hs]
          exact hmove.trans hP
        · -- the event delivered finishes no dialog
          constructor
          · rintro ⟨d, hd⟩
            exact ⟨d, List.mem_cons_of_mem _ hd⟩
          · rintro ⟨d, hd⟩
            rcases List.mem_cons.mp hd with rfl | hd
            · cases hs
            · exact ⟨d, hd⟩
    | some sig =>
        obtain ⟨d, rfl⟩ : ∃ d, e = .dialogFinished d sig := by
          cases e <;> cases hs
          exact ⟨_, rfl⟩
        have hids : (table.map (·.1)).Nodup := h.sessions ▸ h.delivering.ids
        -- the entries the signal completes now: those of the signal still waiting
        have hnew := EndsExactly.map_filter (o := .completed) hids
          fun entry => entry.2.signal == sig && waiting (acc ++ w.bus.queue) entry
        refine ⟨P ++ _, ?_, (hE.append hnew hids ?_).congr ?_⟩
        · rw [deliverOne_queue_of_signal? hs]
          dsimp only
          rw [Bus.registrations_setQueue, h.delivering.registrations, h.sessions,
            map_ended_filter_signal, List.filter_filter, ← List.append_assoc, hmove, hP,
            List.append_assoc]
        · intro entry he hsel hnow
          simp only [Bool.and_eq_true, beq_iff_eq] at hnow
          exact (h.waiting_iff he).mp hnow.2 hsel
        · intro entry he
          simp only [Bool.and_eq_true, beq_iff_eq, List.mem_cons, Event.dialogFinished.injEq]
          constructor
          · rintro (⟨d', hd'⟩ | ⟨hsig, -⟩)
            · exact ⟨d', .inr hd'⟩
            · exact ⟨d, .inl ⟨rfl, hsig⟩⟩
          · rintro ⟨d', ⟨-, hsig⟩ | hd'⟩
            · by_cases hw : waiting (acc ++ w.bus.queue) entry = true
              · exact .inr ⟨hsig, hw⟩
              · exact .inl (not_not.mp ((h.waiting_iff he).not.mp hw))
            · exact .inl ⟨d', hd'⟩

theorem Draining.deliver (h : Draining table q w acc) (fuel : Nat) :
    Draining table q (w.deliver fuel acc).2 (w.deliver fuel acc).1.reverse :=
  deliver_induction (fun w acc => Draining table q w acc) (fun _ _ _ _ hq hd => hd.deliverOne hq)
    fuel h

end Draining

/-- Delivering the queue completes, once each, exactly the tracked interactions whose signal was
queued, announcing their endings after the queue; they leave the table and the other entries
stay. -/
theorem Agrees.processEvents_spec (h : w.Agrees) : ∃ P,
    EndsExactly w.sessions .completed
      (fun entry => ∃ d, .dialogFinished d entry.2.signal ∈ w.bus.queue) P ∧
    w.processEvents.1 = w.bus.queue ++ P ∧ Retires w w.processEvents.2 P := by
  have hd := h.draining.deliver (w.bus.queue.length + w.bus.registrations.length)
  obtain ⟨P, hP, hE⟩ := hd.completions
  rw [List.reverse_reverse, deliver_queue_nil (Nat.le_refl _), List.append_nil,
    ← processEvents_fst] at hP
  -- completions raise no signal, so the dialogs delivered are those that were queued
  have hE' : EndsExactly w.sessions .completed
      (fun entry => ∃ d, .dialogFinished d entry.2.signal ∈ w.bus.queue) P := by
    refine hE.congr fun entry _ => ?_
    rw [← processEvents_fst]
    simp only [List.mem_reverse, hP]
    exact hE.finished_mem_append
  refine ⟨P, hE', hP, Retires.of_endsExactly hE' h.processEvents ?_ ?_⟩
  · have hsess : w.processEvents.2.sessions = w.sessions.filter (waiting w.processEvents.1) :=
      processEvents_sessions w
    rw [hsess, hP]
    apply List.filter_congr
    intro entry he
    rw [waiting_append, waiting_eq_true.mpr (h.quiet entry he), Bool.true_and]
  · exact (processEvents_supply w).ge

/-- Counting a tick and ticking the presentation queues finished dialogs only. -/
theorem Agrees.tickStage_retires (h : w.Agrees) :
    Retires w { w with tick := w.tick + 1 }.tickStage w.stage.tick.1 := by
  have hfinished : ∀ e ∈ w.stage.tick.1, e.starts? = none ∧ e.ends? = none := by
    intro e he
    obtain ⟨d, rfl⟩ := Stage.mem_tick_events he
    exact ⟨rfl, rfl⟩
  refine Retires.silent h.tickStage (startedIn_eq_nil fun e he => (hfinished e he).1)
    (endedIn_eq_nil fun e he => (hfinished e he).2) ?_ ?_
  · rw [tickStage_eq]
  · exact Nat.le_of_eq (by rw [tickStage_eq])

/-- A tick of the world. The presentation queues the dialogs it finishes, `S`. The first
delivery completes, once each, the tracked interactions whose signal was queued or is in `S`,
announcing `P`. The timeout sweep then withdraws, in table order, the interactions left at least
the timeout old by the new tick, announcing `T`; the second delivery has only those endings to
deliver and completes nothing. The tick delivers all of it, and the queue is empty after. -/
theorem Agrees.update_spec (h : w.Agrees) : ∃ S P T, S = w.stage.tick.1 ∧
    (∀ e ∈ S, ∃ d sig, e = .dialogFinished d sig) ∧
    EndsExactly w.sessions .completed
      (fun entry => ∃ d, .dialogFinished d entry.2.signal ∈ w.bus.queue ++ S) P ∧
    EndsExactly (w.sessions.filter (waiting P)) .timedOut
      (fun entry => ∃ k, w.settings.timeoutTicks = some k ∧ k ≤ w.tick + 1 - entry.2.startedAt)
      T ∧
    w.update.1 = w.bus.queue ++ (S ++ P ++ T) ∧ w.update.2.bus.queue = [] ∧
    Retires w w.update.2 (S ++ P ++ T) := by
  have hS : ∀ e ∈ w.stage.tick.1, ∃ d sig, e = .dialogFinished d sig := by
    intro e he
    obtain ⟨d, rfl⟩ := Stage.mem_tick_events he
    exact ⟨d.id, d.signal, rfl⟩
  have hr₀ := h.tickStage_retires
  have hq₀ : ({ w with tick := w.tick + 1 }.tickStage).bus.queue =
      w.bus.queue ++ w.stage.tick.1 := by
    rw [tickStage_eq]
  have hw₀ : ({ w with tick := w.tick + 1 }.tickStage).sessions = w.sessions ∧
      ({ w with tick := w.tick + 1 }.tickStage).settings = w.settings ∧
      ({ w with tick := w.tick + 1 }.tickStage).tick = w.tick + 1 := by
    rw [tickStage_eq]
    exact ⟨rfl, rfl, rfl⟩
  -- the first delivery
  obtain ⟨P, hP, hL₁, hr₁⟩ := hr₀.agrees.processEvents_spec
  rw [hw₀.1, hq₀] at hP
  -- the timeout sweep, on the table the first delivery left
  obtain ⟨T, hT, hb, hq₂, hr₂⟩ := hr₁.agrees.expire_spec
  rw [hr₁.sessions, processEvents_settings, processEvents_tick, hw₀.1, hw₀.2.1, hw₀.2.2] at hT
  rw [processEvents_queue, List.nil_append] at hq₂
  have hfirst := (hr₀.trans hr₁).trans hr₂
  refine ⟨w.stage.tick.1, P, T, rfl, hS, hP, hT, ?_⟩
  rw [update_fst, update_snd]
  dsimp only
  by_cases hex : (({ w with tick := w.tick + 1 }.tickStage).processEvents.2.expire.1 = true)
  · -- the second delivery: only the timeouts are queued, and they complete nothing
    rw [if_pos hex, if_pos hex]
    obtain ⟨P₂, hP₂, hL₂, hr₃⟩ := hr₂.agrees.processEvents_spec
    have hnil : P₂ = [] := hP₂.eq_nil fun entry _ ⟨d, hd⟩ => by
      rw [hq₂] at hd
      exact hT.dialogFinished_not_mem d _ hd
    subst hnil
    refine ⟨by rw [hL₁, hL₂, hq₀, hq₂]; simp, processEvents_queue _, ?_⟩
    simpa using hfirst.trans hr₃
  · -- no session timed out
    rw [if_neg hex, if_neg hex]
    have hTnil : T = [] := by
      rw [hb] at hex
      simpa using hex
    subst hTnil
    refine ⟨by rw [hL₁, hq₀]; simp, hq₂, ?_⟩
    simpa using hfirst

end World

end Parley
