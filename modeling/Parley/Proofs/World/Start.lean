import Parley.Proofs.World.Frame

/-!
# What starting an interaction does

Starting an interaction ends in one of four ways: a check refuses it and nothing changes; the
presentation cannot create the dialog, and both schedules are resumed; it cannot place the
dialog, and the registration is taken back, the dialog dismissed and both schedules resumed;
or the session is registered, tracked and announced. `StartSpec` says so once, and every later
proof about `start` goes through `start_spec` instead of its definition.

## Implementation notes

`engage` is the part common to the last three ways: both schedules suspended, the initiator
stopped and the target turned toward the initiator. The identifiers a start draws are the next
three of the supply: the dialog, its completion signal and the session, in that order.

What engaging does to one body is `Body.engaged`: suspensions, a stop and a turn, each optional.
The direction the target turns to is `World.facing`, read off the two positions before anything
changes, so that a rollback can say which heading the target is left with.
-/

namespace Parley

namespace World

/-- The checks an interaction passes before it changes anything: both parties alive with a
schedule, and the target with a mind. -/
def Admits (w : World) (i t : Entity) (mind : Mind) : Prop :=
  w.requireSchedule .initiator i = .ok () ∧ w.requireSchedule .target t = .ok () ∧
    w.requireMind t = .ok mind

/-- Both schedules suspended, the initiator stopped and the target turned toward it. -/
def engage (w : World) (i t : Entity) : World :=
  (((w.setScheduleActive i false).setScheduleActive t false).modifyBody i
    fun b => { b with motion := b.motion.map Motion.stop }).face t i

/-- The dialog an interaction started now asks for. -/
def nextHandle (w : World) : DialogHandle := ⟨⟨w.supply⟩, ⟨w.supply + 1⟩⟩

/-- The identifier of the session an interaction started now opens. -/
def nextId (w : World) : SessionId := ⟨w.supply + 2⟩

/-- The session an interaction between `i` and `t` started now opens. -/
def nextSession (w : World) (i t : Entity) : Session := ⟨w.nextId, i, t, w.nextHandle⟩

/-- The width of a dialog: the screen length less the margin. -/
def dialogWidth (w : World) : Nat := w.stage.screenLength - w.settings.dialogMargin

/-- How the table tracks the session an interaction between `i` and `t` started now opens. -/
def nextTracked (w : World) (i t : Entity) : Tracked :=
  ⟨w.bus.nextNumber, w.nextHandle.signal, w.nextHandle.id, i, t, w.tick⟩

/-- What starting an interaction can do. -/
inductive StartSpec (w : World) (i t : Entity) : Except InteractionError SessionId × World → Prop
  /-- A check refuses; nothing changes. -/
  | refused (err : InteractionError) : (∀ mind, ¬ w.Admits i t mind) →
      (∀ e, err ≠ .presentation e) → StartSpec w i t (.error err, w)
  /-- The dialog cannot be created; both schedules are resumed. -/
  | notCreated (mind : Mind) (err : PresentationError) : w.Admits i t mind →
      w.stage.create w.nextHandle mind w.dialogWidth w.settings.dialogHeight = .error err →
      StartSpec w i t (.error (.presentation err), (w.engage i t).resumeBoth i t)
  /-- The dialog cannot be placed; the registration is taken back, the dialog dismissed and
  both schedules resumed. -/
  | notPlaced (mind : Mind) (stage : Stage) (err : PresentationError) : w.Admits i t mind →
      w.stage.create w.nextHandle mind w.dialogWidth w.settings.dialogHeight = .ok stage →
      stage.place w.settings.dialogX w.settings.dialogY w.nextHandle = .error err →
      StartSpec w i t (.error (.presentation err),
        ({ w.engage i t with
            supply := w.supply + 3
            stage := stage.dismiss w.nextHandle.id
            bus := ((w.bus.listen w.nextHandle.signal (w.nextSession i t)).2.unlisten
              w.bus.nextNumber).2 }).resumeBoth i t)
  /-- The session is registered, tracked and announced. -/
  | placed (mind : Mind) (stage stage' : Stage) : w.Admits i t mind →
      w.stage.create w.nextHandle mind w.dialogWidth w.settings.dialogHeight = .ok stage →
      stage.place w.settings.dialogX w.settings.dialogY w.nextHandle = .ok stage' →
      StartSpec w i t (.ok w.nextId,
        ({ w.engage i t with
            supply := w.supply + 3
            stage := stage'
            bus := (w.bus.listen w.nextHandle.signal (w.nextSession i t)).2
            sessions := w.sessions ++ [(w.nextId, w.nextTracked i t)] }).publish
          (.interactionStarted w.nextId i t w.nextHandle.id))

@[simp] theorem engage_bus (w : World) (i t : Entity) : (w.engage i t).bus = w.bus := by
  simp [engage, setScheduleActive]

@[simp] theorem engage_stage (w : World) (i t : Entity) : (w.engage i t).stage = w.stage := by
  simp [engage, setScheduleActive]

@[simp] theorem engage_settings (w : World) (i t : Entity) :
    (w.engage i t).settings = w.settings := by
  simp [engage, setScheduleActive]

@[simp] theorem engage_sessions (w : World) (i t : Entity) :
    (w.engage i t).sessions = w.sessions := by
  simp [engage, setScheduleActive]

@[simp] theorem engage_tick (w : World) (i t : Entity) : (w.engage i t).tick = w.tick := by
  simp [engage, setScheduleActive]

@[simp] theorem engage_supply (w : World) (i t : Entity) : (w.engage i t).supply = w.supply := by
  simp [engage, setScheduleActive]

@[simp] theorem size_engage (w : World) (i t : Entity) :
    (w.engage i t).entities.slots.size = w.entities.slots.size := by
  simp [engage, setScheduleActive]

@[simp] theorem resumeBoth_bus (w : World) (i t : Entity) : (w.resumeBoth i t).bus = w.bus := rfl

@[simp] theorem resumeBoth_stage (w : World) (i t : Entity) :
    (w.resumeBoth i t).stage = w.stage := rfl

@[simp] theorem resumeBoth_sessions (w : World) (i t : Entity) :
    (w.resumeBoth i t).sessions = w.sessions := rfl

@[simp] theorem resumeBoth_tick (w : World) (i t : Entity) : (w.resumeBoth i t).tick = w.tick := rfl

@[simp] theorem resumeBoth_supply (w : World) (i t : Entity) :
    (w.resumeBoth i t).supply = w.supply := rfl

@[simp] theorem size_resumeBoth (w : World) (i t : Entity) :
    (w.resumeBoth i t).entities.slots.size = w.entities.slots.size := by
  simp [resumeBoth, setScheduleActive]

/-- Resuming reads and writes only the entities. -/
theorem entities_resumeBoth_congr {w₁ w₂ : World} (h : w₁.entities = w₂.entities) (i t : Entity) :
    (w₁.resumeBoth i t).entities = (w₂.resumeBoth i t).entities := by
  simp [resumeBoth, setScheduleActive, modifyBody, h]

/-- A passed schedule check finds the entity alive with a schedule. -/
theorem requireSchedule_ok {w : World} {role : Role} {e : Entity} {u : Unit}
    (h : w.requireSchedule role e = .ok u) :
    ∃ b s, w.body? e = some b ∧ b.schedule = some s := by
  unfold requireSchedule at h
  split at h
  · cases h
  · rename_i b hb
    split at h
    · rename_i hs
      obtain ⟨s, hs⟩ := Option.isSome_iff_exists.mp hs
      exact ⟨b, s, hb, hs⟩
    · cases h

/-- How many of the two parties `i` and `t` the entity `e` is: two when a character addresses
itself. -/
def roles (e i t : Entity) : Nat := (if i = e then 1 else 0) + (if t = e then 1 else 0)

/-- Resuming both parties resumes each schedule once per party it belongs to. -/
theorem scheduleOf_resumeBoth (w : World) (i t e : Entity) :
    (w.resumeBoth i t).scheduleOf e =
      (w.scheduleOf e).map (Nat.repeat Schedule.resume (roles e i t)) := by
  unfold resumeBoth
  rw [scheduleOf_setScheduleActive, scheduleOf_setScheduleActive]
  by_cases hi : e = i <;> by_cases ht : e = t
  · subst hi ht
    cases w.scheduleOf e <;> simp [roles, Nat.repeat]
  · subst hi
    cases w.scheduleOf e <;> simp [roles, Nat.repeat, ht, Ne.symm ht]
  · subst ht
    cases w.scheduleOf e <;> simp [roles, Nat.repeat, hi, Ne.symm hi]
  · simp [roles, Nat.repeat, hi, ht, Ne.symm hi, Ne.symm ht]

/-- Engaging suspends each schedule once per party it belongs to. -/
theorem scheduleOf_engage (w : World) (i t e : Entity) :
    (w.engage i t).scheduleOf e =
      (w.scheduleOf e).map (Nat.repeat Schedule.suspend (roles e i t)) := by
  unfold engage
  rw [scheduleOf_face, scheduleOf_modifyBody, scheduleOf_setScheduleActive,
    scheduleOf_setScheduleActive]
  · by_cases hi : e = i <;> by_cases ht : e = t
    · subst hi ht
      cases w.scheduleOf e <;> simp [roles, Nat.repeat]
    · subst hi
      cases w.scheduleOf e <;> simp [roles, Nat.repeat, ht, Ne.symm ht]
    · subst ht
      cases w.scheduleOf e <;> simp [roles, Nat.repeat, hi, Ne.symm hi]
    · simp [roles, Nat.repeat, hi, ht, Ne.symm hi, Ne.symm ht]
  · intro b
    rfl

theorem requireSchedule_error {w : World} {role : Role} {e : Entity} {err : InteractionError}
    (h : w.requireSchedule role e = .error err) (p : PresentationError) :
    err ≠ .presentation p := by
  unfold requireSchedule at h
  split at h
  · cases h
    simp
  · split at h <;> cases h
    simp

theorem requireMind_error {w : World} {e : Entity} {err : InteractionError}
    (h : w.requireMind e = .error err) (p : PresentationError) : err ≠ .presentation p := by
  unfold requireMind at h
  split at h
  · cases h
    simp
  · split at h <;> cases h
    simp

theorem start_spec (w : World) (i t : Entity) : StartSpec w i t (w.start i t) := by
  unfold start
  split
  · rename_i err hi
    exact .refused err (fun mind h => by simp [Admits, hi] at h) (requireSchedule_error hi)
  · rename_i err _ ht
    exact .refused err (fun mind h => by simp [Admits, ht] at h) (requireSchedule_error ht)
  · rename_i err _ _ hm
    exact .refused err (fun mind h => by simp [Admits, hm] at h) (requireMind_error hm)
  · rename_i _ _ mind hi ht hm
    have hadm : w.Admits i t mind := ⟨hi, ht, hm⟩
    simp only [World.mint]
    rw [← engage]
    simp only [engage_stage, engage_supply, engage_settings, engage_bus, engage_sessions,
      engage_tick]
    split
    · rename_i err hc
      exact .notCreated mind err hadm hc
    · rename_i stage hc
      split
      · rename_i err hp
        have := StartSpec.notPlaced mind stage err hadm hc hp
        simp only [nextHandle, nextSession, nextId] at this
        simpa only [Bus.listen_fst, Nat.add_assoc, Nat.reduceAdd, engage_settings, engage_sessions,
          engage_tick] using this
      · rename_i stage' hp
        have := StartSpec.placed mind stage stage' hadm hc hp
        simp only [nextHandle, nextSession, nextId, nextTracked] at this
        simpa only [Bus.listen_fst, Nat.add_assoc, Nat.reduceAdd, engage_settings, engage_sessions,
          engage_tick] using this

end World

/-- A body once an interaction has started: its schedule suspended once per party the entity is,
its walking stopped if it `stops`, and its heading turned the way `turn` says, if any. -/
def Body.engaged (b : Body) (parties : Nat) (stops : Bool) (turn : Option Direction) : Body :=
  { b with
    schedule := b.schedule.map (Nat.repeat Schedule.suspend parties)
    motion := b.motion.map fun m =>
      ⟨if stops then Directions.empty else m.direction, turn.getD m.heading⟩ }

/-- A body neither suspended, stopped nor turned is as it was. -/
@[simp] theorem Body.engaged_zero (b : Body) : b.engaged 0 false none = b := by
  obtain ⟨mind, position, motion, schedule⟩ := b
  cases motion <;> cases schedule <;> rfl

/-- A body only turned has its heading set. -/
theorem Body.engaged_turn (b : Body) (d : Direction) :
    b.engaged 0 false (some d) =
      { b with motion := b.motion.map fun m => { m with heading := d } } := by
  obtain ⟨mind, position, motion, schedule⟩ := b
  cases motion <;> cases schedule <;> rfl

namespace World

variable {w : World}

/-- The direction `observer` turns to face `target`: along the axis that parts their positions
most, when both stand somewhere and apart. -/
def facing (w : World) (observer target : Entity) : Option Direction :=
  match (w.body? observer).bind (·.position), (w.body? target).bind (·.position) with
  | some source, some dest => directionBetween source dest
  | _, _ => none

/-- Turning an observer sets its heading to the direction it faces, if any. -/
theorem body?_face (w : World) (o t e : Entity) :
    (w.face o t).body? e =
      if e = o then (w.body? e).map (Body.engaged · 0 false (w.facing o t)) else w.body? e := by
  -- where the observer does not turn, every body is as it was
  have hkeep : w.body? e = if e = o then (w.body? e).map (Body.engaged · 0 false none)
      else w.body? e := by
    split
    · simp
    · rfl
  unfold face facing
  cases hs : (w.body? o).bind (·.position) with
  | none => exact hkeep
  | some source =>
      cases hd : (w.body? t).bind (·.position) with
      | none => exact hkeep
      | some dest =>
          dsimp only
          cases hdir : directionBetween source dest with
          | none => exact hkeep
          | some d =>
              rw [body?_modifyBody]
              split
              · simp [Body.engaged_turn]
              · rfl

/-- A change of body that keeps positions keeps the direction every entity faces another. -/
theorem facing_modifyBody {f : Body → Body} (hf : ∀ b, (f b).position = b.position)
    (x o t : Entity) : (w.modifyBody x f).facing o t = w.facing o t := by
  have hpos : ∀ e,
      ((w.modifyBody x f).body? e).bind (·.position) = (w.body? e).bind (·.position) := by
    intro e
    rw [body?_modifyBody]
    split
    · cases w.body? e <;> simp [hf]
    · rfl
  unfold facing
  rw [hpos o, hpos t]

/-- Engaging `i` and `t` engages every body: suspended once per party, the initiator stopped and
the target turned toward the initiator. -/
theorem body?_engage (w : World) (i t e : Entity) :
    (w.engage i t).body? e = (w.body? e).map fun b =>
      b.engaged (roles e i t) (decide (e = i)) (if e = t then w.facing t i else none) := by
  have hfacing : (((w.setScheduleActive i false).setScheduleActive t false).modifyBody i
      fun b => { b with motion := b.motion.map Motion.stop }).facing t i = w.facing t i := by
    unfold setScheduleActive
    rw [facing_modifyBody, facing_modifyBody, facing_modifyBody] <;> intro b <;> rfl
  unfold engage
  rw [body?_face, hfacing]
  unfold setScheduleActive
  simp only [body?_modifyBody]
  by_cases hi : e = i <;> by_cases ht : e = t
  · subst hi ht
    cases w.body? e with
    | none => simp
    | some b =>
        cases b; rename_i motion _
        cases motion <;> simp [Body.engaged, roles, Nat.repeat, Motion.stop, Function.comp_def]
  · subst hi
    cases w.body? e with
    | none => simp [ht]
    | some b =>
        cases b; rename_i motion _
        cases motion <;> simp [Body.engaged, roles, Nat.repeat, Motion.stop, ht, Ne.symm ht]
  · subst ht
    cases w.body? e with
    | none => simp [hi]
    | some b =>
        cases b; rename_i motion _
        cases motion <;> simp [Body.engaged, roles, Nat.repeat, hi, Ne.symm hi]
  · cases w.body? e with
    | none => simp [hi, ht]
    | some b =>
        cases b; rename_i motion _
        cases motion <;> simp [Body.engaged, roles, Nat.repeat, hi, ht, Ne.symm hi, Ne.symm ht]

end World

end Parley
