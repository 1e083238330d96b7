import Parley.Proofs.World.Lifecycle

/-!
# Timeouts against completions

A tick of the world ticks the presentation and delivers the queue before it sweeps the sessions
at least the timeout old. So a session whose finished dialog was queued before the tick, or is
announced by the presentation during it, completes and is not timed out; a session still waiting
after the first delivery is timed out exactly when the new tick is at least `max T 1` past its
start, one tick at the least even for a timeout of zero; and after a tick no tracked session is as
old as the timeout. Without a timeout no session is ever timed out, and a session ends one way
only.
-/

namespace Parley

section Lists

variable {α β : Type}

/-- Where the values picked out of a list are distinct, two members picking the same value are
one. -/
theorem eq_of_filterMap_nodup {f : α → Option β} {l : List α} (hl : (l.filterMap f).Nodup)
    {a b : α} {x : β} (ha : a ∈ l) (hb : b ∈ l) (hfa : f a = some x) (hfb : f b = some x) :
    a = b := by
  induction l with
  | nil => cases ha
  | cons c l ih =>
      rw [List.filterMap_cons] at hl
      cases hc : f c with
      | none =>
          rw [hc] at hl
          have ha' : a ∈ l := (List.mem_cons.mp ha).resolve_left fun h => by simp [h, hc] at hfa
          have hb' : b ∈ l := (List.mem_cons.mp hb).resolve_left fun h => by simp [h, hc] at hfb
          exact ih hl ha' hb'
      | some y =>
          rw [hc] at hl
          obtain ⟨hy, hl⟩ := List.nodup_cons.mp hl
          -- a member of the rest picking `x` puts `x` in the rest's values
          have hrest : ∀ z ∈ l, f z = some x → x ∉ l.filterMap f → False :=
            fun z hz hfz hx => hx (List.mem_filterMap.mpr ⟨z, hz, hfz⟩)
          rcases List.mem_cons.mp ha with rfl | ha' <;> rcases List.mem_cons.mp hb with rfl | hb'
          · rfl
          · rw [hc, Option.some_inj] at hfa
            exact (hrest b hb' hfb (hfa ▸ hy)).elim
          · rw [hc, Option.some_inj] at hfb
            exact (hrest a ha' hfa (hfb ▸ hy)).elim
          · exact ih hl ha' hb'

end Lists

namespace World

variable {w : World}

/-! ## What a tick and a withdrawal keep -/

@[simp] theorem withdraw_tick (w : World) (id : SessionId) (o : Outcome) :
    (w.withdraw id o).2.tick = w.tick := by
  unfold withdraw
  split
  · rfl
  · dsimp only
    split <;> rfl

@[simp] theorem withdraw_settings (w : World) (id : SessionId) (o : Outcome) :
    (w.withdraw id o).2.settings = w.settings := by
  unfold withdraw
  split
  · rfl
  · dsimp only
    split <;> rfl

theorem expire_tick (w : World) : w.expire.2.tick = w.tick :=
  expire_induction (fun w' => w'.tick = w.tick) (fun _ _ h => by rw [withdraw_tick, h]) rfl

theorem expire_settings (w : World) : w.expire.2.settings = w.settings :=
  expire_induction (fun w' => w'.settings = w.settings) (fun _ _ h => by rw [withdraw_settings, h])
    rfl

theorem update_tick (w : World) : w.update.2.tick = w.tick + 1 := by
  rw [update_snd]
  dsimp only
  split <;> simp [expire_tick, tickStage_eq]

theorem update_settings (w : World) : w.update.2.settings = w.settings := by
  rw [update_snd]
  dsimp only
  split <;> simp [expire_settings, tickStage_eq]

theorem start_settings (w : World) (i t : Entity) : (w.start i t).2.settings = w.settings := by
  have hspec := start_spec w i t
  generalize w.start i t = r at hspec
  cases hspec <;> simp [resumeBoth, setScheduleActive]

/-- No operation changes the settings. -/
theorem settings_apply (op : Op) (w : World) : (op.apply w).settings = w.settings := by
  cases op with
  | perform target action initiator =>
      rcases Participant.performAction_cases target w action initiator with h | ⟨i, t, -, -, -, h⟩
      · rw [Op.apply_perform, h]
      · rw [Op.apply_perform, h, start_settings]
  | update => exact update_settings w
  | processEvents => exact processEvents_settings w
  | abandon id => exact withdraw_settings w id .abandoned
  | despawn e => exact (framed_despawn w e).settings
  | destroy p =>
      rw [Op.apply_destroy, Participant.destroy_world]
      split
      · exact (framed_despawn w _).settings
      · rfl
  | finish d => exact (framed_finishDialog w d).settings
  | spawn body | publishFinished d sig | publishCustom t d | publishDespawned e => rfl

/-! ## One tick -/

/-- The ending of a tracked interaction is no completion with another outcome. -/
theorem endingOf_ne_of_outcome {entry entry' : SessionId × Tracked} {o o' : Outcome}
    (h : o ≠ o') : endingOf entry o ≠ endingOf entry' o' := by
  intro heq
  exact h (interactionEnded_eq_endingOf.mp heq).2.2.2

/-- The presentation's tick announces finished dialogs only, so no ending. -/
theorem endingOf_not_mem_tick (entry : SessionId × Tracked) (o : Outcome) :
    endingOf entry o ∉ w.stage.tick.1 := by
  intro hm
  obtain ⟨d, hd⟩ := Stage.mem_tick_events hm
  cases hd

/-- With a timeout of `T`, a tick times a tracked interaction out exactly when the new tick is
at least `max T 1` past its start and no finished dialog of its signal was queued before the tick
or announced by the presentation during it. -/
theorem Agrees.timedOut_mem_update (h : w.Agrees) {T : Nat} (hT : w.settings.timeoutTicks = some T)
    {entry : SessionId × Tracked} (he : entry ∈ w.sessions) :
    endingOf entry .timedOut ∈ w.update.1 ↔
      entry.2.startedAt + max T 1 ≤ w.tick + 1 ∧
        ¬∃ d, .dialogFinished d entry.2.signal ∈ w.bus.queue ++ w.stage.tick.1 := by
  obtain ⟨S, P, Tev, rfl, -, hP, hTev, hL, -, -⟩ := h.update_spec
  have hq : endingOf entry .timedOut ∉ w.bus.queue := fun hm =>
    h.quiet entry he (List.mem_filterMap.mpr ⟨_, hm, rfl⟩)
  have hPn : endingOf entry .timedOut ∉ P := fun hm => by
    obtain ⟨e, -, -, heq⟩ := (hP.mem _).mp hm
    exact endingOf_ne_of_outcome (by decide) heq
  have hstart := h.started entry he
  have hmem : endingOf entry .timedOut ∈ w.bus.queue ++ (w.stage.tick.1 ++ P ++ Tev) ↔
      endingOf entry .timedOut ∈ Tev := by
    simp [hq, endingOf_not_mem_tick, hPn]
  rw [hL, hmem, hTev.mem]
  constructor
  · rintro ⟨e, hef, ⟨k, hk, hle⟩, heq⟩
    obtain ⟨he', hw⟩ := List.mem_filter.mp hef
    -- the entry timed out is the one asked about: identifiers are distinct
    have hid : entry.1 = e.1 := (interactionEnded_eq_endingOf.mp heq).1
    obtain rfl := List.inj_on_of_nodup_map h.ids he he' hid
    rw [hT, Option.some_inj] at hk
    subst hk
    exact ⟨by omega, (hP.waiting_eq_true h.ids he).mp hw⟩
  · rintro ⟨hle, hnf⟩
    exact ⟨entry, List.mem_filter.mpr ⟨he, (hP.waiting_eq_true h.ids he).mpr hnf⟩,
      ⟨T, hT, by omega⟩, rfl⟩

/-- A tick completes a tracked interaction whose finished dialog was queued before it or is
announced by the presentation during it, and the interaction is no longer tracked after. -/
theorem Agrees.completed_mem_update (h : w.Agrees) {entry : SessionId × Tracked}
    (he : entry ∈ w.sessions)
    (hfin : ∃ d, .dialogFinished d entry.2.signal ∈ w.bus.queue ++ w.stage.tick.1) :
    endingOf entry .completed ∈ w.update.1 ∧ entry.1 ∉ w.update.2.sessions.map (·.1) := by
  obtain ⟨S, P, Tev, rfl, -, hP, -, hL, -, hr⟩ := h.update_spec
  have hmem : endingOf entry .completed ∈ P := (hP.mem _).mpr ⟨entry, he, hfin, rfl⟩
  refine ⟨by rw [hL]; simp [hmem], ?_⟩
  rw [hr.sessions, mem_map_filter_waiting, endedIn_append, endedIn_append]
  rintro ⟨-, hn⟩
  exact hn (List.mem_append_left _ (List.mem_append_right _
    (hP.mem_endedIn.mpr ⟨entry, he, hfin, rfl⟩)))

/-- After a tick no tracked interaction is as old as the timeout. -/
theorem Agrees.update_young (h : w.Agrees) {T : Nat} (hT : w.settings.timeoutTicks = some T) :
    ∀ entry ∈ w.update.2.sessions, w.update.2.tick - entry.2.startedAt < T := by
  obtain ⟨S, P, Tev, rfl, -, hP, hTev, -, -, hr⟩ := h.update_spec
  intro entry he
  rw [hr.sessions] at he
  obtain ⟨he, hw⟩ := List.mem_filter.mp he
  rw [waiting_append, waiting_append, Bool.and_eq_true, Bool.and_eq_true] at hw
  obtain ⟨⟨-, hwP⟩, hwT⟩ := hw
  rw [update_tick]
  -- an entry as old as the timeout and still waiting is timed out
  by_contra hold
  have hsel : entry ∈ w.sessions.filter (waiting P) := List.mem_filter.mpr ⟨he, hwP⟩
  have hin : entry.1 ∈ endedIn Tev :=
    hTev.mem_endedIn.mpr ⟨entry, hsel, ⟨T, hT, by omega⟩, rfl⟩
  exact (waiting_eq_true.mp hwT) hin

end World

/-! ## Over a run -/

/-- An interaction ends one way: two endings of it in a chronicle are the same announcement. -/
theorem World.Chronicle.ending_unique {w : World} {H : List Event} (h : World.Chronicle w H)
    {s : SessionId} {i t i' t' : Entity} {o o' : Outcome}
    (h₁ : .interactionEnded s i t o ∈ H) (h₂ : .interactionEnded s i' t' o' ∈ H) :
    Event.interactionEnded s i t o = .interactionEnded s i' t' o' :=
  eq_of_filterMap_nodup h.endsOnce h₁ h₂ rfl rfl

/-- Without a timeout, no interaction is ever announced timed out. -/
theorem Scripted.not_timedOut {w : World} {D : List Event} (h : Scripted w D)
    (hT : w.settings.timeoutTicks = none) (s : SessionId) (i t : Entity) :
    .interactionEnded s i t .timedOut ∉ D ++ w.bus.queue := by
  induction h with
  | new stage settings => simp [World.new, Bus.empty]
  | @step w D op hrun ih =>
      rw [World.settings_apply] at hT
      have hp := hrun.chronicle.agrees.publishes op
      -- the history grows by what the operation publishes
      rw [List.append_assoc, hp.fifo, ← List.append_assoc, List.mem_append]
      rintro (hm | hm)
      · exact ih hT hm
      · obtain ⟨tr, -, -, -, hends⟩ := (hp.ends s i t .timedOut).mp hm
        rcases hends with ⟨hc, -⟩ | ⟨ha, -⟩ | ⟨-, -, ⟨k, hk, -⟩, -⟩
        · cases hc
        · cases ha
        · rw [hT] at hk
          cases hk

end Parley
