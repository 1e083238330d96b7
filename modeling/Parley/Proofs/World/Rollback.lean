import Parley.Proofs.World.Agreement

/-!
# What a failed action leaves behind

An action refused before anything changes (an unbound party, an unhandled action, a missing
entity or component) leaves the world as it was. An interaction that fails in the presentation
has already suspended both schedules, stopped the initiator and turned the target; the rollback
resumes both schedules and, when the dialog could not be placed, takes the registration back
and dismisses the dialog (`World.RolledBack`).

The rollback restores a pause counter exactly when the counter had room for the suspensions:
a counter at the largest count refuses a suspension but not the resumption that follows
(`failed_action_rollback`). `saturated_counter_not_restored` is such a case.
-/

namespace Parley

namespace World

variable {w : World}

/-- What an interaction between `i` and `t` that failed in the presentation leaves of the world
`w`: both maps of the bus, the queue, the table and the tick as they were, every entity but the
two parties untouched, every mind and position kept, the initiator no longer walking, the
target turned toward the initiator and no other heading changed, and the presentation as it was
or with the created dialog dismissed. -/
structure RolledBack (w w' : World) (i t : Entity) : Prop where
  listeners : w'.bus.listeners = w.bus.listeners
  signals : w'.bus.signals = w.bus.signals
  queue : w'.bus.queue = w.bus.queue
  sessions : w'.sessions = w.sessions
  tick : w'.tick = w.tick
  bystanders : ∀ e, e ≠ i → e ≠ t → w'.body? e = w.body? e
  minds : ∀ e, (w'.body? e).map (·.mind) = (w.body? e).map (·.mind)
  positions : ∀ e, (w'.body? e).map (·.position) = (w.body? e).map (·.position)
  walking : ∀ e, (w'.body? e).map (·.motion.map (·.direction)) =
    (w.body? e).map (·.motion.map fun m => if e = i then Directions.empty else m.direction)
  headings : ∀ e, e ≠ t →
    (w'.body? e).map (·.motion.map (·.heading)) = (w.body? e).map (·.motion.map (·.heading))
  turned : (w'.body? t).map (·.motion.map (·.heading)) =
    (w.body? t).map (·.motion.map fun m => (w.facing t i).getD m.heading)
  stage : w'.stage = w.stage ∨ ∃ mind stage, w.requireMind t = .ok mind ∧
    w.stage.create w.nextHandle mind w.dialogWidth w.settings.dialogHeight = .ok stage ∧
    w'.stage = stage.dismiss w.nextHandle.id

theorem body?_modifyBody_of_ne {f : Body → Body} {x e : Entity} (h : e ≠ x) (w : World) :
    (w.modifyBody x f).body? e = w.body? e := by
  rw [body?_modifyBody, if_neg h]

/-- A change of one body that keeps some part of every body keeps that part of every body. -/
theorem map_body?_modifyBody {α : Type} (g : Body → α) {f : Body → Body}
    (hf : ∀ b, g (f b) = g b) (w : World) (x e : Entity) :
    ((w.modifyBody x f).body? e).map g = (w.body? e).map g := by
  rw [body?_modifyBody]
  split
  · cases w.body? e <;> simp [hf]
  · rfl

theorem body?_face_of_ne {o t e : Entity} (h : e ≠ o) (w : World) :
    (w.face o t).body? e = w.body? e := by
  rcases face_cases w o t with hf | ⟨d, hf⟩
  · rw [hf]
  · rw [hf, body?_modifyBody_of_ne h]

/-- Turning an observer keeps every part of a body that a change of heading keeps. -/
theorem map_body?_face {α : Type} (g : Body → α)
    (hg : ∀ b d, g { b with motion := b.motion.map fun m => { m with heading := d } } = g b)
    (w : World) (o t e : Entity) : ((w.face o t).body? e).map g = (w.body? e).map g := by
  rcases face_cases w o t with hf | ⟨d, hf⟩
  · rw [hf]
  · rw [hf]
    exact map_body?_modifyBody g (fun b => hg b d) w o e

/-- Engaging two parties and resuming them keeps the part of a body that suspending and resuming
keep, and that stopping keeps on the initiator and turning on the target. -/
theorem map_body?_rollback {α : Type} (g : Body → α) {i t e : Entity}
    (hsched : ∀ b a, g { b with schedule := b.schedule.map (·.setActive a) } = g b)
    (hstop : e = i → ∀ b, g { b with motion := b.motion.map Motion.stop } = g b)
    (hturn : e = t → ∀ b d, g { b with motion := b.motion.map fun m => { m with heading := d } } =
      g b) (w : World) :
    (((w.engage i t).resumeBoth i t).body? e).map g = (w.body? e).map g := by
  unfold resumeBoth engage setScheduleActive
  rw [map_body?_modifyBody g (hsched · true), map_body?_modifyBody g (hsched · true)]
  have hface : ∀ w' : World, ((w'.face t i).body? e).map g = (w'.body? e).map g := by
    intro w'
    by_cases he : e = t
    · exact map_body?_face g (hturn he) w' t i e
    · rw [body?_face_of_ne he]
  rw [hface]
  by_cases he : e = i
  · rw [map_body?_modifyBody g (hstop he)]
    rw [map_body?_modifyBody g (hsched · false), map_body?_modifyBody g (hsched · false)]
  · rw [body?_modifyBody_of_ne he]
    rw [map_body?_modifyBody g (hsched · false), map_body?_modifyBody g (hsched · false)]

/-- The initiator of a rolled back interaction no longer walks. -/
theorem direction_rollback_initiator (w : World) (i t : Entity) :
    (((w.engage i t).resumeBoth i t).body? i).map (·.motion.map (·.direction)) =
      (w.body? i).map (·.motion.map fun _ => Directions.empty) := by
  have hdir : ∀ (b : Body) a, (fun b : Body => b.motion.map (·.direction))
      { b with schedule := b.schedule.map (·.setActive a) } = b.motion.map (·.direction) :=
    fun _ _ => rfl
  have hempty : ∀ (b : Body) a, (fun b : Body => b.motion.map fun _ => Directions.empty)
      { b with schedule := b.schedule.map (·.setActive a) } =
        b.motion.map fun _ => Directions.empty :=
    fun _ _ => rfl
  unfold resumeBoth engage setScheduleActive
  rw [map_body?_modifyBody _ (hdir · true), map_body?_modifyBody _ (hdir · true)]
  have hface : ∀ w' : World, ((w'.face t i).body? i).map (·.motion.map (·.direction)) =
      (w'.body? i).map (·.motion.map (·.direction)) := by
    intro w'
    by_cases hi : i = t
    · refine map_body?_face _ ?_ w' t i i
      intro b d
      cases b.motion <;> rfl
    · rw [body?_face_of_ne hi]
  rw [hface, body?_modifyBody, if_pos rfl, Option.map_map]
  -- stopping empties the walking set
  have hstop : ((·.motion.map (·.direction)) ∘ fun b : Body =>
      { b with motion := b.motion.map Motion.stop }) =
      (·.motion.map fun _ => Directions.empty) := by
    funext b
    simp only [Function.comp_apply]
    cases b.motion <;> rfl
  rw [hstop, map_body?_modifyBody _ (hempty · false), map_body?_modifyBody _ (hempty · false)]

/-- The target of a rolled back interaction keeps the heading it turned to. -/
theorem heading_rollback_target (w : World) (i t : Entity) :
    (((w.engage i t).resumeBoth i t).body? t).map (·.motion.map (·.heading)) =
      (w.body? t).map (·.motion.map fun m => (w.facing t i).getD m.heading) := by
  have hkeep : ∀ (b : Body) a, (fun b : Body => b.motion.map (·.heading))
      { b with schedule := b.schedule.map (·.setActive a) } = b.motion.map (·.heading) :=
    fun _ _ => rfl
  unfold resumeBoth setScheduleActive
  rw [map_body?_modifyBody _ (hkeep · true), map_body?_modifyBody _ (hkeep · true), body?_engage,
    Option.map_map, if_pos rfl]
  congr 1
  funext b
  obtain ⟨mind, position, motion, schedule⟩ := b
  cases motion <;> rfl

theorem body?_rollback_of_ne {i t e : Entity} (hi : e ≠ i) (ht : e ≠ t) (w : World) :
    ((w.engage i t).resumeBoth i t).body? e = w.body? e := by
  unfold resumeBoth engage setScheduleActive
  rw [body?_modifyBody_of_ne ht, body?_modifyBody_of_ne hi, body?_face_of_ne ht,
    body?_modifyBody_of_ne hi, body?_modifyBody_of_ne ht, body?_modifyBody_of_ne hi]

/-- The bodies a rolled back interaction leaves, whatever else of the world it changed. -/
theorem RolledBack.of_entities {w' : World} {i t : Entity}
    (he : w'.entities = ((w.engage i t).resumeBoth i t).entities)
    (hl : w'.bus.listeners = w.bus.listeners) (hsig : w'.bus.signals = w.bus.signals)
    (hq : w'.bus.queue = w.bus.queue)
    (hs : w'.sessions = w.sessions) (ht : w'.tick = w.tick)
    (hstage : w'.stage = w.stage ∨ ∃ mind stage, w.requireMind t = .ok mind ∧
      w.stage.create w.nextHandle mind w.dialogWidth w.settings.dialogHeight = .ok stage ∧
      w'.stage = stage.dismiss w.nextHandle.id) :
    w.RolledBack w' i t := by
  have hbody : ∀ e, w'.body? e = ((w.engage i t).resumeBoth i t).body? e := by
    intro e
    simp only [body?, he]
  refine ⟨hl, hsig, hq, hs, ht, ?_, ?_, ?_, ?_, ?_, ?_, hstage⟩
  · intro e hi ht
    rw [hbody, body?_rollback_of_ne hi ht]
  · intro e
    rw [hbody]
    exact map_body?_rollback _ (fun _ _ => rfl) (fun _ _ => rfl) (fun _ _ _ => rfl) w
  · intro e
    rw [hbody]
    exact map_body?_rollback _ (fun _ _ => rfl) (fun _ _ => rfl) (fun _ _ _ => rfl) w
  · intro e
    rw [hbody]
    by_cases hi : e = i
    · subst hi
      simp only [if_true]
      exact direction_rollback_initiator w e t
    · simp only [hi, if_false]
      refine map_body?_rollback _ (fun _ _ => rfl) (fun h => absurd h hi) ?_ w
      intro _ b d
      cases b.motion <;> rfl
  · intro e het
    rw [hbody]
    refine map_body?_rollback _ (fun _ _ => rfl) ?_ (fun h => absurd h het) w
    intro _ b
    cases b.motion <;> rfl
  · rw [hbody]
    exact heading_rollback_target w i t

/-- Each pause counter of a rolled back interaction is suspended and resumed once per party it
is: the count comes back unless it saturated. -/
theorem paused_rollback (w : World) (i t e : Entity) :
    (((w.engage i t).resumeBoth i t).scheduleOf e).map (·.paused.toNat) =
      (w.scheduleOf e).map fun s => min (s.paused.toNat + roles e i t) 65535 - roles e i t := by
  rw [scheduleOf_resumeBoth, scheduleOf_engage, Option.map_map, Option.map_map]
  congr 1
  funext s
  exact Schedule.paused_repeat_resume_suspend _ s

theorem roles_le_two (e i t : Entity) : roles e i t ≤ 2 := by
  unfold roles
  split <;> split <;> omega

/-- A rolled back interaction restores a pause counter exactly when it had room for the
suspensions. -/
theorem scheduleOf_rollback_eq_iff (w : World) (i t e : Entity) :
    ((w.engage i t).resumeBoth i t).scheduleOf e = w.scheduleOf e ↔
      ∀ s, w.scheduleOf e = some s → s.paused.toNat + roles e i t ≤ 65535 := by
  rw [scheduleOf_resumeBoth, scheduleOf_engage, Option.map_map]
  have hroles : roles e i t ≤ 65535 := Nat.le_trans (roles_le_two e i t) (by decide)
  cases w.scheduleOf e with
  | none => simp
  | some s =>
      simp only [Option.map_some, Option.some.injEq, Function.comp_apply, forall_eq']
      exact Schedule.repeat_resume_suspend_eq_iff hroles s

/-- The pause counters a rolled back interaction leaves, whatever else of the world it
changed. -/
theorem counters_of_entities {w' : World} {i t : Entity}
    (he : w'.entities = ((w.engage i t).resumeBoth i t).entities) (e : Entity) :
    (w'.scheduleOf e).map (·.paused.toNat) =
        (w.scheduleOf e).map (fun s => min (s.paused.toNat + roles e i t) 65535 - roles e i t) ∧
      (w'.scheduleOf e = w.scheduleOf e ↔
        ∀ s, w.scheduleOf e = some s → s.paused.toNat + roles e i t ≤ 65535) := by
  rw [scheduleOf_congr he]
  exact ⟨paused_rollback w i t e, scheduleOf_rollback_eq_iff w i t e⟩

end World

namespace Participant

/-- A failed action was refused before any change, or failed starting an interaction between
the bound initiator and target. -/
theorem performAction_error {self initiator : Participant} {w : World} {action : ActionKind}
    {err : InteractionError} (h : (self.performAction w action initiator).1 = .error err) :
    ((self.performAction w action initiator).2 = w ∧ ∀ pe, err ≠ .presentation pe) ∨
      ∃ i t, initiator.entity = some i ∧ self.entity = some t ∧
        w.start i t = (.error err, (self.performAction w action initiator).2) := by
  unfold performAction at h ⊢
  split
  · rename_i hk
    simp only [hk] at h
    split
    · rename_i hi
      simp only [hi, Except.error.injEq] at h
      subst h
      exact .inl ⟨rfl, fun pe => by simp⟩
    · rename_i i hi ht
      simp only [hi, ht, Except.error.injEq] at h
      subst h
      exact .inl ⟨rfl, fun pe => by simp⟩
    · rename_i i t hi ht
      simp only [hi, ht] at h
      rcases hs : w.start i t with ⟨_ | session, w'⟩
      · rename_i e
        simp only [hs, Except.error.injEq] at h ⊢
        subst h
        exact .inr ⟨i, t, hi, ht, hs⟩
      · simp [hs] at h
  · rename_i hk
    simp only [hk] at h
    split
    · rename_i hp
      simp [hp] at h
    · rename_i hp
      simp only [hp, Except.error.injEq] at h
      subst h
      exact .inl ⟨rfl, fun pe => by simp⟩

end Participant

/-- A failed action leaves the world as it was when it was refused before any change. When it
failed in the presentation, it leaves what `RolledBack` says and each pause counter suspended and
resumed once per party its entity is: a counter comes back exactly when it had room for the
suspensions, and one at the largest count comes back lower. -/
theorem failed_action_rollback {target initiator : Participant} {w : World}
    {action : ActionKind} {err : InteractionError} (hw : Reachable w)
    (h : (target.performAction w action initiator).1 = .error err) :
    ((∀ pe, err ≠ .presentation pe) → (target.performAction w action initiator).2 = w) ∧
    (∀ pe, err = .presentation pe → ∃ i t, initiator.entity = some i ∧ target.entity = some t ∧
      w.RolledBack (target.performAction w action initiator).2 i t ∧
      ∀ e, ((target.performAction w action initiator).2.scheduleOf e).map (·.paused.toNat) =
          (w.scheduleOf e).map
            (fun s => min (s.paused.toNat + World.roles e i t) 65535 - World.roles e i t) ∧
        ((target.performAction w action initiator).2.scheduleOf e = w.scheduleOf e ↔
          ∀ s, w.scheduleOf e = some s → s.paused.toNat + World.roles e i t ≤ 65535)) := by
  rcases Participant.performAction_error h with ⟨hsame, hnp⟩ | ⟨i, t, hi, ht, hstart⟩
  · exact ⟨fun _ => hsame, fun pe hpe => absurd hpe (hnp pe)⟩
  · have hspec := World.start_spec w i t
    rw [hstart] at hspec
    generalize (target.performAction w action initiator).2 = w' at hspec ⊢
    cases hspec with
    | refused _ _ hnp => exact ⟨fun _ => rfl, fun pe hpe => absurd hpe (hnp pe)⟩
    | notCreated mind pe' hadm hc =>
        refine ⟨fun hne => absurd rfl (hne pe'), fun _ _ => ⟨i, t, hi, ht, ?_, ?_⟩⟩
        · exact World.RolledBack.of_entities rfl (by simp) (by simp) (by simp) (by simp) (by simp)
            (.inl (by simp))
        · exact World.counters_of_entities rfl
    | notPlaced mind stage pe' hadm hc hp =>
        -- the registration made is taken back, and both maps are as they were
        have hfresh := Bus.unlisten_listen_of_fresh hw.agrees.lookup_nextSignal
          hw.agrees.consistent.lookup_nextNumber (w.nextSession i t)
        -- the registration taken back and the dialog dismissed leave the bodies alone
        have hent := fun {w' : World} (he : w'.entities = (w.engage i t).entities) =>
          World.entities_resumeBoth_congr he i t
        refine ⟨fun hne => absurd rfl (hne pe'), fun _ _ => ⟨i, t, hi, ht, ?_, ?_⟩⟩
        · exact World.RolledBack.of_entities (hent (by dsimp only)) (by simp [hfresh])
            (by simp [hfresh]) (by simp [hfresh]) (by simp) (by simp)
            (.inr ⟨mind, stage, hadm.2.2, hc, by simp⟩)
        · exact World.counters_of_entities (hent (by dsimp only))

/-- A character at the largest count and one whose mind has no dialogue. -/
def saturatedScene : World :=
  (Op.spawn { mind := some ⟨"b", "B", "", 16777215, none⟩, schedule := some ⟨"m", 0⟩ }).apply
    ((Op.spawn { schedule := some ⟨"m", 65535⟩ }).apply (World.new (Stage.new 640 none) {}))

/-- The character at the largest count addresses the other: the dialog cannot be created, and
the rollback leaves the initiator's counter one lower than it was. -/
theorem saturated_counter_not_restored :
    saturatedScene.scheduleOf ⟨0⟩ = some ⟨"m", 65535⟩ ∧
    ((Participant.bound .npc ⟨1⟩).performAction saturatedScene .normal
      (.bound .npc ⟨0⟩)).1 = .error (.presentation (.noDialogue "b")) ∧
    ((Participant.bound .npc ⟨1⟩).performAction saturatedScene .normal
      (.bound .npc ⟨0⟩)).2.scheduleOf ⟨0⟩ = some ⟨"m", 65534⟩ := by
  decide

theorem saturated_rollback_lowers_counter :
    Reachable saturatedScene ∧
    ((Participant.bound .npc ⟨1⟩).performAction saturatedScene .normal
      (.bound .npc ⟨0⟩)).1 = .error (.presentation (.noDialogue "b")) ∧
    ((∀ pe, InteractionError.presentation (.noDialogue "b") ≠ .presentation pe) →
      ((Participant.bound .npc ⟨1⟩).performAction saturatedScene .normal
        (.bound .npc ⟨0⟩)).2 = saturatedScene) ∧
    (∀ pe, InteractionError.presentation (.noDialogue "b") = .presentation pe →
      ∃ i t, (Participant.bound .npc ⟨0⟩).entity = some i ∧
        (Participant.bound .npc ⟨1⟩).entity = some t ∧
        saturatedScene.RolledBack ((Participant.bound .npc ⟨1⟩).performAction saturatedScene
          .normal (.bound .npc ⟨0⟩)).2 i t ∧
        ∀ e, (((Participant.bound .npc ⟨1⟩).performAction saturatedScene .normal
            (.bound .npc ⟨0⟩)).2.scheduleOf e).map (·.paused.toNat) =
            (saturatedScene.scheduleOf e).map
              (fun s => min (s.paused.toNat + World.roles e i t) 65535 - World.roles e i t) ∧
          (((Participant.bound .npc ⟨1⟩).performAction saturatedScene .normal
            (.bound .npc ⟨0⟩)).2.scheduleOf e = saturatedScene.scheduleOf e ↔
            ∀ s, saturatedScene.scheduleOf e = some s →
              s.paused.toNat + World.roles e i t ≤ 65535)) := by
  have hreach : Reachable saturatedScene := .step _ (.step _ (.new _ _))
  have herr : ((Participant.bound .npc ⟨1⟩).performAction saturatedScene .normal
      (.bound .npc ⟨0⟩)).1 = .error (.presentation (.noDialogue "b")) := by
    decide
  exact ⟨hreach, herr, failed_action_rollback hreach herr⟩

end Parley
