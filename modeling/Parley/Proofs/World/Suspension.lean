import Parley.Proofs.World.Delivery

/-!
# Suspension accounting

Every interaction holds one suspension of its initiator's schedule and one of its target's,
two of one schedule when a character addresses itself, from the moment it is registered on the
bus until it ends. So along any run in which no schedule is suspended at its largest count, a
live entity's pause count is the count it was spawned with plus the number of sides it takes
in the sessions still waiting on the bus.

Main statement: `paused_eq_spawned_add_pending`.

## Implementation notes

The invariant is `Accounts`, read against the bodies spawned so far. Its `owed` argument lists
the sessions already handed out by the bus whose schedules are not yet resumed: it is empty
between operations and only grows while a delivered signal ends its sessions one by one.
-/

namespace Parley

namespace Session

/-- The sides an entity takes in a session: as initiator, and as target. -/
def roles (s : Session) (e : Entity) : Nat := World.roles e s.initiator s.target

/-- The sides an entity takes across sessions. -/
def rolesIn (ss : List Session) (e : Entity) : Nat := (ss.map (·.roles e)).sum

@[simp] theorem rolesIn_nil (e : Entity) : rolesIn [] e = 0 := rfl

@[simp] theorem rolesIn_cons (s : Session) (ss : List Session) (e : Entity) :
    rolesIn (s :: ss) e = s.roles e + rolesIn ss e := by
  simp [rolesIn]

@[simp] theorem rolesIn_append (ss ss' : List Session) (e : Entity) :
    rolesIn (ss ++ ss') e = rolesIn ss e + rolesIn ss' e := by
  simp [rolesIn, List.sum_append]

theorem rolesIn_perm {ss ss' : List Session} (h : ss.Perm ss') (e : Entity) :
    rolesIn ss e = rolesIn ss' e :=
  (h.map _).sum_nat

/-- Registering a session adds the sides it holds. -/
theorem rolesIn_listen (b : Bus) (signal : Signal) (s : Session) (e : Entity) :
    rolesIn ((b.listen signal s).2.registrations.map (·.session)) e =
      rolesIn (b.registrations.map (·.session)) e + s.roles e := by
  rw [rolesIn_perm ((b.listen_registrations_perm signal s).map _) e]
  simp

/-- The sides an entity takes are the sessions it initiates and the sessions it is the target
of. -/
theorem rolesIn_eq_countP (ss : List Session) (e : Entity) :
    rolesIn ss e = ss.countP (·.initiator == e) + ss.countP (·.target == e) := by
  induction ss with
  | nil => rfl
  | cons s rest ih =>
      simp only [rolesIn_cons, ih, List.countP_cons, roles, World.roles, beq_iff_eq]
      split <;> split <;> omega

end Session

namespace World

/-- The suspensions of an entity's schedule that the sessions waiting on the bus hold. -/
def pending (w : World) (e : Entity) : Nat :=
  Session.rolesIn (w.bus.registrations.map (·.session)) e

/-- The schedule accounts of a world, against the bodies spawned so far, with `owed` sessions
ended by the bus whose schedules are still to be resumed. -/
structure Accounts (w : World) (bodies : List Body) (owed : List Session) : Prop where
  size : w.entities.slots.size = bodies.length
  numbered : w.bus.Numbered
  /-- Every waiting session is between entities already spawned. -/
  parties : ∀ r ∈ w.bus.registrations,
    r.session.initiator.index < bodies.length ∧ r.session.target.index < bodies.length
  /-- A schedule counts the pauses it was spawned with and those its sessions hold. -/
  balance : ∀ e s, w.scheduleOf e = some s → ∃ b s₀, bodies[e.index]? = some b ∧
    b.schedule = some s₀ ∧
      s.paused.toNat = s₀.paused.toNat + w.pending e + Session.rolesIn owed e

variable {w w' : World} {bodies : List Body} {owed : List Session}

/-- The accounts read only the entities and the registrations, in any order. -/
theorem Accounts.congr (h : w.Accounts bodies owed) (he : w'.entities = w.entities)
    (hr : w'.bus.registrations.Perm w.bus.registrations)
    (hn : w.bus.nextNumber ≤ w'.bus.nextNumber) : w'.Accounts bodies owed where
  size := he ▸ h.size
  numbered := h.numbered.subperm hr.subperm hn
  parties r hr' := h.parties r (hr.mem_iff.mp hr')
  balance := by
    intro e s hs
    rw [scheduleOf_congr he] at hs
    obtain ⟨b, s₀, hb, hb₀, hp⟩ := h.balance e s hs
    refine ⟨b, s₀, hb, hb₀, ?_⟩
    rw [pending, Session.rolesIn_perm (hr.map _) e]
    exact hp

theorem Accounts.publish (h : w.Accounts bodies owed) (ev : Event) :
    (w.publish ev).Accounts bodies owed :=
  h.congr rfl (.refl _) (Nat.le_refl _)

/-- Ending a session the bus handed out resumes both its sides and settles what it owed. -/
theorem Accounts.finishSession {s : Session} (h : w.Accounts bodies (s :: owed))
    (o : Outcome) : (w.finishSession s o).Accounts bodies owed := by
  unfold World.finishSession
  refine Accounts.publish ?_ _
  refine ⟨by simpa [resumeBoth, setScheduleActive] using h.size, h.numbered, h.parties, ?_⟩
  intro e s' hs'
  rw [scheduleOf_resumeBoth] at hs'
  obtain ⟨s₁, hs₁, rfl⟩ := Option.map_eq_some_iff.mp hs'
  obtain ⟨b, s₀, hb, hb₀, hp⟩ := h.balance e s₁ hs₁
  refine ⟨b, s₀, hb, hb₀, ?_⟩
  rw [Schedule.paused_repeat_resume]
  simp only [Session.rolesIn_cons, Session.roles] at hp
  have hpend : (w.resumeBoth s.initiator s.target).pending e = w.pending e := by
    simp [pending, resumeBoth, setScheduleActive]
  rw [hpend]
  omega

theorem Accounts.foldl_finishSession (ss : List Session) (o : Outcome)
    (h : w.Accounts bodies (ss ++ owed)) :
    (ss.foldl (fun w s => w.finishSession s o) w).Accounts bodies owed := by
  induction ss generalizing w with
  | nil => simpa using h
  | cons s rest ih => exact ih (h.finishSession o)

/-- Taking the registrations of a signal moves their sessions from the waiting ones to the
owed ones. -/
theorem Accounts.take (h : w.Accounts bodies []) (signal : Signal) :
    ({ w with bus := (w.bus.take signal).2 }).Accounts bodies (w.bus.take signal).1 := by
  have hperm := List.filter_append_perm (·.signal == signal) w.bus.registrations
  refine ⟨h.size, h.numbered.take signal, ?_, ?_⟩
  · intro r hr
    change r ∈ (w.bus.take signal).2.registrations at hr
    rw [Bus.take_registrations] at hr
    exact h.parties r (List.mem_filter.mp hr).1
  · intro e s hs
    obtain ⟨b, s₀, hb, hb₀, hp⟩ := h.balance e s hs
    refine ⟨b, s₀, hb, hb₀, ?_⟩
    have hsplit := Session.rolesIn_perm (hperm.map (·.session)) e
    simp only [List.map_append, Session.rolesIn_append] at hsplit
    simp only [pending, Session.rolesIn_nil, Nat.add_zero] at hp
    simp only [pending, Bus.take_registrations, Bus.take_fst]
    have hne : (fun x : Registration => !(x.signal == signal)) = (·.signal != signal) := rfl
    rw [hne] at hsplit
    omega

theorem Accounts.deliverOne (h : w.Accounts bodies []) (ev : Event) :
    (w.deliverOne ev).Accounts bodies [] := by
  have hobs : ({ w with bus := w.bus.observe ev }).Accounts bodies [] :=
    h.congr rfl (.refl _) (Nat.le_refl _)
  unfold World.deliverOne
  split
  · rename_i signal _
    exact Accounts.foldl_finishSession ((w.bus.observe ev).take signal).1 .completed
      (by rw [List.append_nil]; exact hobs.take signal)
  · exact hobs

theorem Accounts.deliver (h : w.Accounts bodies []) (fuel : Nat) (acc : List Event) :
    (w.deliver fuel acc).2.Accounts bodies [] :=
  deliver_induction (fun w _ => w.Accounts bodies [])
    (fun w' _ e rest _ hw =>
      Accounts.deliverOne (w := { w' with bus := { w'.bus with queue := rest } })
        (hw.congr rfl (.refl _) (Nat.le_refl _)) e) fuel h

theorem Accounts.processEvents (h : w.Accounts bodies []) : w.processEvents.2.Accounts bodies [] :=
  (h.deliver _ _).congr rfl (.refl _) (Nat.le_refl _)

/-- Taking back a registration moves its session from the waiting ones to the owed ones. -/
theorem Accounts.unlisten (h : w.Accounts bodies []) {n : Nat} {s : Session}
    (hu : (w.bus.unlisten n).1 = some s) :
    ({ w with bus := (w.bus.unlisten n).2 }).Accounts bodies [s] := by
  obtain ⟨sig, -, hperm⟩ := Bus.unlisten_registrations_of_fst_eq_some hu
  refine ⟨h.size, h.numbered.unlisten n,
    fun r hr => h.parties r (hperm.mem_iff.mpr (List.mem_cons_of_mem _ hr)), ?_⟩
  intro e s' hs
  obtain ⟨b, s₀, hb, hb₀, hp⟩ := h.balance e s' hs
  refine ⟨b, s₀, hb, hb₀, ?_⟩
  have hsplit := Session.rolesIn_perm (hperm.map (·.session)) e
  simp only [List.map_cons, Session.rolesIn_cons] at hsplit
  simp only [pending, Session.rolesIn_nil, Nat.add_zero] at hp
  simp only [pending, Session.rolesIn_cons, Session.rolesIn_nil]
  omega

/-- Withdrawing a tracked session takes back its registration and resumes both its sides; a
number that hands nothing back leaves the registrations as they were. -/
theorem Accounts.withdraw (h : w.Accounts bodies []) (id : SessionId) (o : Outcome) :
    (w.withdraw id o).2.Accounts bodies [] := by
  unfold World.withdraw
  split
  · exact h
  · rename_i t _
    dsimp only
    split
    · rename_i bus hu
      have hfst : (w.bus.unlisten t.registration).1 = none := by rw [hu]
      have hbus : (w.bus.unlisten t.registration).2 = bus := by rw [hu]
      refine h.congr rfl ?_ (by rw [← hbus, Bus.unlisten_nextNumber])
      rw [← Bus.unlisten_registrations_of_fst_eq_none hfst, hbus]
    · rename_i session bus hu
      have hfst : (w.bus.unlisten t.registration).1 = some session := by rw [hu]
      have hbus : (w.bus.unlisten t.registration).2 = bus := by rw [hu]
      refine Accounts.finishSession ?_ o
      exact (h.unlisten hfst).congr rfl (by rw [hbus]) (by rw [hbus])

theorem Accounts.abandon (h : w.Accounts bodies []) (id : SessionId) :
    (w.abandon id).2.Accounts bodies [] :=
  h.withdraw id .abandoned

/-- Withdrawing timed out sessions one after another keeps the accounts. -/
theorem Accounts.expire (h : w.Accounts bodies []) : w.expire.2.Accounts bodies [] :=
  expire_induction (·.Accounts bodies []) (fun _ id h => h.withdraw id .timedOut) h

theorem Accounts.update (h : w.Accounts bodies []) : w.update.2.Accounts bodies [] := by
  rw [update_snd]
  have htick : ({ w with tick := w.tick + 1 }.tickStage).Accounts bodies [] :=
    h.congr (by rw [tickStage_eq]) (by rw [tickStage_eq]; rfl)
      (Nat.le_of_eq (by rw [tickStage_eq]))
  have hexp := htick.processEvents.expire
  dsimp only
  split
  · exact hexp.processEvents
  · exact hexp

theorem Accounts.finishDialog (h : w.Accounts bodies []) (d : DialogId) :
    (w.finishDialog d).2.Accounts bodies [] := by
  unfold World.finishDialog
  split
  · refine Accounts.publish ?_ _
    exact h.congr rfl (.refl _) (Nat.le_refl _)
  · exact h

/-- A dead entity holds no schedule and takes no part in the accounts. -/
theorem Accounts.despawn (h : w.Accounts bodies []) (x : Entity) :
    (w.despawn x).2.Accounts bodies [] := by
  unfold World.despawn
  split
  · rename_i es hes
    refine Accounts.publish ?_ _
    refine ⟨(Entities.size_despawn hes).trans h.size, h.numbered, h.parties, ?_⟩
    intro e s hs
    have hget := Entities.get?_despawn hes e
    simp only [scheduleOf, body?] at hs
    rw [hget] at hs
    split at hs
    · cases hs
    · simpa [pending] using h.balance e s hs
  · exact h

theorem Accounts.destroy (h : w.Accounts bodies []) (p : Participant) :
    (p.destroy w).2.Accounts bodies [] := by
  rw [Participant.destroy_world]
  split
  · exact h.despawn _
  · exact h

/-- No waiting session involves an entity that no registration names. -/
theorem pending_eq_zero {e : Entity}
    (h : ∀ r ∈ w.bus.registrations, r.session.initiator ≠ e ∧ r.session.target ≠ e) :
    w.pending e = 0 := by
  simp only [pending, Session.rolesIn_eq_countP, List.countP_map]
  have h₁ : w.bus.registrations.countP (fun r => r.session.initiator == e) = 0 :=
    List.countP_eq_zero.mpr fun r hr => by simpa using (h r hr).1
  have h₂ : w.bus.registrations.countP (fun r => r.session.target == e) = 0 :=
    List.countP_eq_zero.mpr fun r hr => by simpa using (h r hr).2
  simpa [Function.comp_def] using And.intro h₁ h₂

/-- A new entity starts with the pauses of the body it is spawned with. -/
theorem Accounts.spawn (h : w.Accounts bodies []) (body : Body) :
    (w.spawn body).2.Accounts (bodies ++ [body]) [] := by
  have hsize := h.size
  refine ⟨by simp [World.spawn, hsize], h.numbered, ?_, ?_⟩
  · intro r hr
    have := h.parties r hr
    simp only [List.length_append, List.length_singleton]
    omega
  · intro e s hs
    simp only [scheduleOf, body?, World.spawn, Entities.get?_spawn] at hs
    split at hs
    · rename_i he
      subst he
      refine ⟨body, s, by simp [hsize], by simpa using hs, ?_⟩
      have hzero : (w.spawn body).2.pending ⟨w.entities.slots.size⟩ = 0 := by
        apply pending_eq_zero
        intro r hr
        have hp := h.parties r hr
        constructor
        · intro heq
          rw [heq] at hp
          exact absurd hp.1 (by simp [hsize])
        · intro heq
          rw [heq] at hp
          exact absurd hp.2 (by simp [hsize])
      simp [hzero]
    · obtain ⟨b, s₀, hb, hb₀, hp⟩ := h.balance e s hs
      have hlt : e.index < bodies.length := by
        rw [List.getElem?_eq_some_iff] at hb
        exact hb.1
      refine ⟨b, s₀, by rw [List.getElem?_append_left hlt]; exact hb, hb₀, ?_⟩
      simpa [pending, World.spawn] using hp

/-- The schedule of the entity is at its largest count, where a suspension is refused. -/
def AtLimit (w : World) (e : Entity) : Prop := ∃ s, w.scheduleOf e = some s ∧ s.paused = 65535

/-- Starting an interaction between `i` and `t` would suspend a schedule at its largest count:
the checks pass, and the initiator's schedule, or the target's once the initiator's is
suspended, is at its largest count. -/
def SuspendsAtLimit (w : World) (i t : Entity) : Prop :=
  (∃ mind, w.Admits i t mind) ∧ (w.AtLimit i ∨ (w.setScheduleActive i false).AtLimit t)

theorem toNat_ne_of_ne_limit {s : Schedule} (h : s.paused ≠ 65535) : s.paused.toNat ≠ 65535 :=
  fun h' => h (UInt16.toNat_inj.mp h')

/-- Short of a suspension at the largest count, each count has room for the suspensions the
start makes of it. -/
theorem paused_add_roles_le {i t : Entity} {mind : Mind} (hadm : w.Admits i t mind)
    (hsafe : ¬ w.SuspendsAtLimit i t) {e : Entity} {s : Schedule}
    (hs : w.scheduleOf e = some s) : s.paused.toNat + roles e i t ≤ 65535 := by
  have hfree : ¬ w.AtLimit i ∧ ¬ (w.setScheduleActive i false).AtLimit t :=
    not_or.mp fun h => hsafe ⟨⟨mind, hadm⟩, h⟩
  have hlt := s.paused.toNat_lt
  by_cases hi : e = i <;> by_cases ht : e = t
  · -- a character addressing itself is suspended twice
    subst hi ht
    have h₁ := toNat_ne_of_ne_limit fun h => hfree.1 ⟨s, hs, h⟩
    have h₂ := @toNat_ne_of_ne_limit s.suspend fun h =>
      hfree.2 ⟨s.suspend, by simp [scheduleOf_setScheduleActive, hs], h⟩
    rw [Schedule.paused_suspend] at h₂
    simp only [roles, if_true]
    omega
  · subst hi
    have h₁ := toNat_ne_of_ne_limit fun h => hfree.1 ⟨s, hs, h⟩
    simp only [roles, if_true, Ne.symm ht, if_false]
    omega
  · subst ht
    have h₂ := toNat_ne_of_ne_limit fun h =>
      hfree.2 ⟨s, by simp [scheduleOf_setScheduleActive, hi, hs], h⟩
    simp only [roles, if_true, Ne.symm hi, if_false]
    omega
  · simp only [roles, Ne.symm hi, Ne.symm ht, if_false]
    omega

/-- A start that fails after the checks resumes what it suspended. -/
theorem Accounts.engage_resumeBoth (h : w.Accounts bodies []) {i t : Entity} {mind : Mind}
    (hadm : w.Admits i t mind) (hsafe : ¬ w.SuspendsAtLimit i t) :
    ((w.engage i t).resumeBoth i t).Accounts bodies [] := by
  refine ⟨by simp [h.size], by simpa using h.numbered, by simpa using h.parties, ?_⟩
  intro e s' hs'
  rw [scheduleOf_resumeBoth, scheduleOf_engage, Option.map_map] at hs'
  obtain ⟨s, hs, rfl⟩ := Option.map_eq_some_iff.mp hs'
  have hroom := paused_add_roles_le hadm hsafe hs
  obtain ⟨b, s₀, hb, hb₀, hp⟩ := h.balance e s hs
  refine ⟨b, s₀, hb, hb₀, ?_⟩
  simp only [Function.comp, Schedule.paused_repeat_resume, Schedule.paused_repeat_suspend]
  simp only [pending, resumeBoth_bus, engage_bus] at hp ⊢
  omega

/-- Both parties of an admitted interaction are spawned. -/
theorem Accounts.index_lt (h : w.Accounts bodies owed) {i t : Entity} {mind : Mind}
    (hadm : w.Admits i t mind) : i.index < bodies.length ∧ t.index < bodies.length := by
  obtain ⟨bi, -, hbi, -⟩ := requireSchedule_ok hadm.1
  obtain ⟨bt, -, hbt, -⟩ := requireSchedule_ok hadm.2.1
  rw [← h.size]
  exact ⟨Entities.index_lt_of_get? hbi, Entities.index_lt_of_get? hbt⟩

/-- Starting an interaction keeps the accounts when no schedule is suspended at its largest
count: a new session holds exactly the suspensions it made, and a failed start gives them
back. -/
theorem Accounts.start (h : w.Accounts bodies []) {i t : Entity}
    (hsafe : ¬ w.SuspendsAtLimit i t) : (w.start i t).2.Accounts bodies [] := by
  have hspec := start_spec w i t
  generalize w.start i t = r at hspec
  cases hspec with
  | refused => exact h
  | notCreated mind err hadm => exact h.engage_resumeBoth hadm hsafe
  | notPlaced mind stage err hadm =>
      -- the entities are those of the engaged world: read them off without unfolding it
      refine (h.engage_resumeBoth hadm hsafe).congr
        (entities_resumeBoth_congr (by dsimp only) i t) ?_ (by simp)
      simpa using (h.numbered.unlisten_listen w.nextHandle.signal (w.nextSession i t)).2
  | placed mind stage stage' hadm =>
      have hparties := h.index_lt hadm
      have hsched := scheduleOf_engage w i t
      have hsize := size_engage w i t
      refine Accounts.publish ?_ _
      -- only the entities of the engaged world matter from here on
      generalize w.engage i t = v at hsched hsize ⊢
      refine ⟨by simp [hsize, h.size], by simpa using h.numbered.listen _ _, ?_, ?_⟩
      · intro r hr
        have hr' := (Bus.listen_registrations_perm _ _ _).mem_iff.mp hr
        simp only [List.mem_append, List.mem_singleton] at hr'
        rcases hr' with hr | rfl
        · exact h.parties r hr
        · exact hparties
      · intro e s' hs'
        change v.scheduleOf e = some s' at hs'
        rw [hsched] at hs'
        obtain ⟨s, hs, rfl⟩ := Option.map_eq_some_iff.mp hs'
        have hroom := paused_add_roles_le hadm hsafe hs
        obtain ⟨b, s₀, hb, hb₀, hp⟩ := h.balance e s hs
        refine ⟨b, s₀, hb, hb₀, ?_⟩
        simp only [pending, Session.rolesIn_nil, Nat.add_zero] at hp
        simp only [pending, Session.rolesIn_listen, Session.rolesIn_nil, Nat.add_zero,
          Schedule.paused_repeat_suspend, Session.roles, nextSession]
        omega

end World

/-- An operation suspends a schedule at its largest count: it is the normal action between two
bound characters whose interaction would do so. -/
def Op.SuspendsAtLimit (w : World) : Op → Prop
  | .perform target action initiator => action.code = 0 ∧ ∃ i t,
      initiator.entity = some i ∧ target.entity = some t ∧ w.SuspendsAtLimit i t
  | _ => False

namespace World

variable {w : World} {bodies : List Body}

/-- One operation keeps the accounts, against the bodies spawned including its own. -/
theorem Accounts.apply (h : w.Accounts bodies []) (op : Op) (hsafe : ¬ op.SuspendsAtLimit w) :
    (op.apply w).Accounts (bodies ++ op.spawned?.toList) [] := by
  cases op with
  | spawn body => exact h.spawn body
  | perform target action initiator =>
      simp only [Op.apply_perform, Op.spawned?, Option.toList_none, List.append_nil]
      rcases target.performAction_cases w action initiator with hw | ⟨i, t, hcode, hi, ht, hw⟩
      · rw [hw]
        exact h
      · rw [hw]
        exact h.start fun hs => hsafe ⟨hcode, i, t, hi, ht, hs⟩
  | update => simpa [Op.spawned?] using h.update
  | processEvents => simpa [Op.spawned?] using h.processEvents
  | abandon id => simpa [Op.spawned?] using h.abandon id
  | despawn e => simpa [Op.spawned?] using h.despawn e
  | destroy p => simpa [Op.spawned?] using h.destroy p
  | finish d => simpa [Op.spawned?] using h.finishDialog d
  | publishFinished d s => simpa [Op.spawned?] using h.publish _
  | publishCustom t d => simpa [Op.spawned?] using h.publish _
  | publishDespawned e => simpa [Op.spawned?] using h.publish _

end World

/-- The runs from a new world in which no schedule is ever suspended at its largest count,
with the bodies they spawned, in order. -/
inductive UnsaturatedRun : World → List Body → Prop
  | new (stage : Stage) (settings : InteractionSettings) :
      UnsaturatedRun (World.new stage settings) []
  | step {w : World} {bodies : List Body} (op : Op) : UnsaturatedRun w bodies →
      ¬ op.SuspendsAtLimit w → UnsaturatedRun (op.apply w) (bodies ++ op.spawned?.toList)

theorem UnsaturatedRun.accounts {w : World} {bodies : List Body} (h : UnsaturatedRun w bodies) :
    w.Accounts bodies [] := by
  induction h with
  | new stage settings =>
      refine ⟨rfl, Bus.consistent_empty.toNumbered, fun r hr => absurd hr List.not_mem_nil, ?_⟩
      · intro e s hs
        simp [World.new, World.scheduleOf, World.body?, Entities.empty, Entities.get?] at hs
  | step op _ hsafe ih => exact ih.apply op hsafe

/-- Along a run in which no schedule is suspended at its largest count, a live entity's pause
count is the count it was spawned with, plus the waiting sessions it initiates, plus those it is
the target of. So it runs exactly when it was spawned running and no waiting session involves
it. -/
theorem paused_eq_spawned_add_pending {w : World} {bodies : List Body}
    (hrun : UnsaturatedRun w bodies) {e : Entity} {s : Schedule}
    (hs : w.scheduleOf e = some s) :
    ∃ b s₀, bodies[e.index]? = some b ∧ b.schedule = some s₀ ∧
      s.paused.toNat = s₀.paused.toNat +
        w.bus.registrations.countP (·.session.initiator == e) +
        w.bus.registrations.countP (·.session.target == e) ∧
      (s.state = .active ↔ s₀.paused = 0 ∧
        ∀ r ∈ w.bus.registrations, r.session.initiator ≠ e ∧ r.session.target ≠ e) := by
  obtain ⟨b, s₀, hb, hb₀, hp⟩ := hrun.accounts.balance e s hs
  have hcount : w.pending e = w.bus.registrations.countP (·.session.initiator == e) +
      w.bus.registrations.countP (·.session.target == e) := by
    simp [World.pending, Session.rolesIn_eq_countP, List.countP_map, Function.comp_def]
  rw [hcount, Session.rolesIn_nil, Nat.add_zero, ← Nat.add_assoc] at hp
  refine ⟨b, s₀, hb, hb₀, hp, ?_⟩
  have hactive : s.state = .active ↔ s.paused.toNat = 0 := by
    simp [Schedule.state, Schedule.isActive, ← UInt16.toNat_inj]
  have hzero : s₀.paused = 0 ↔ s₀.paused.toNat = 0 := by simp [← UInt16.toNat_inj]
  have hnone :
      (∀ r ∈ w.bus.registrations, r.session.initiator ≠ e ∧ r.session.target ≠ e) ↔
      w.bus.registrations.countP (·.session.initiator == e) = 0 ∧
        w.bus.registrations.countP (·.session.target == e) = 0 := by
    simp only [List.countP_eq_zero, beq_iff_eq]
    exact ⟨fun h => ⟨fun r hr => (h r hr).1, fun r hr => (h r hr).2⟩,
      fun h r hr => ⟨h.1 r hr, h.2 r hr⟩⟩
  rw [hactive, hzero, hnone, hp]
  omega

/-- A character spawned with three pauses of its own. -/
def selfTalker : Body :=
  { schedule := some ⟨"idle", 3⟩, mind := some ⟨"a", "A", "hi", 0, none⟩ }

/-- The character addresses itself. -/
def selfTalk : World :=
  (Op.perform (.bound .npc ⟨0⟩) .normal (.bound .npc ⟨0⟩)).apply
    ((Op.spawn selfTalker).apply (World.new (Stage.new 640 none) {}))

/-- Addressing itself, the character holds its own three pauses and two for the session. -/
theorem paused_counts_self_address :
    UnsaturatedRun selfTalk [selfTalker] ∧ selfTalk.scheduleOf ⟨0⟩ = some ⟨"idle", 5⟩ ∧
      ∃ b s₀, [selfTalker][0]? = some b ∧ b.schedule = some s₀ ∧
        (⟨"idle", 5⟩ : Schedule).paused.toNat = s₀.paused.toNat +
          selfTalk.bus.registrations.countP (·.session.initiator == ⟨0⟩) +
          selfTalk.bus.registrations.countP (·.session.target == ⟨0⟩) ∧
        ((⟨"idle", 5⟩ : Schedule).state = .active ↔ s₀.paused = 0 ∧
          ∀ r ∈ selfTalk.bus.registrations,
            r.session.initiator ≠ ⟨0⟩ ∧ r.session.target ≠ ⟨0⟩) := by
  have hsafe : ¬ (Op.perform (.bound .npc ⟨0⟩) .normal (.bound .npc ⟨0⟩)).SuspendsAtLimit
      ((Op.spawn selfTalker).apply (World.new (Stage.new 640 none) {})) := by
    rintro ⟨-, i, t, hi, ht, -, ⟨s, hs, hp⟩ | ⟨s, hs, hp⟩⟩ <;>
      simp only [Participant.bound, Option.some.injEq] at hi ht <;> subst hi ht
    · have hsched : ((Op.spawn selfTalker).apply (World.new (Stage.new 640 none) {})).scheduleOf
          ⟨0⟩ = some ⟨"idle", 3⟩ := by decide
      rw [hsched] at hs
      cases hs
      simp at hp
    · have hsched : (((Op.spawn selfTalker).apply
          (World.new (Stage.new 640 none) {})).setScheduleActive ⟨0⟩ false).scheduleOf ⟨0⟩ =
            some ⟨"idle", 4⟩ := by decide
      rw [hsched] at hs
      cases hs
      simp at hp
  have hrun : UnsaturatedRun selfTalk [selfTalker] :=
    .step _ (.step _ (.new _ _) id) hsafe
  have hs : selfTalk.scheduleOf ⟨0⟩ = some ⟨"idle", 5⟩ := by decide
  exact ⟨hrun, hs, paused_eq_spawned_add_pending hrun hs⟩

end Parley
