import Mathlib
import Parley.Participant
import Parley.Proofs.World.BusMaps

/-!
# What the world's operations change

Each operation of the world touches a few of its parts and leaves the rest alone. This module
says so once per operation, so that the invariants proved later read the parts they need
through these lemmas and never unfold an operation.

The pause count is read as a natural number: suspending adds one up to the largest 16-bit
count, resuming takes one away down to zero.
-/

namespace Parley

namespace Schedule

@[simp] theorem setActive_true (s : Schedule) : s.setActive true = s.resume := rfl

@[simp] theorem setActive_false (s : Schedule) : s.setActive false = s.suspend := rfl

/-- Suspending adds one pause, up to the largest count. -/
theorem paused_suspend (s : Schedule) :
    s.suspend.paused.toNat = min (s.paused.toNat + 1) 65535 := by
  unfold suspend
  split
  · rename_i h
    simp [h]
  · rename_i h
    have hne : s.paused.toNat ≠ 65535 := fun h' => h (UInt16.toNat_inj.mp (by simpa using h'))
    have hlt := s.paused.toNat_lt
    simp only [UInt16.toNat_add, UInt16.toNat_one]
    omega

/-- Resuming takes one pause away, down to zero. -/
theorem paused_resume (s : Schedule) : s.resume.paused.toNat = s.paused.toNat - 1 := by
  unfold resume
  split
  · rename_i h
    simp [h]
  · rename_i h
    have hne : s.paused.toNat ≠ 0 := fun h' => h (UInt16.toNat_inj.mp (by simpa using h'))
    have hle : (1 : UInt16) ≤ s.paused := by
      simp only [UInt16.le_iff_toNat_le, UInt16.toNat_one]
      omega
    simp [UInt16.toNat_sub_of_le _ _ hle]

@[simp] theorem manager_suspend (s : Schedule) : s.suspend.manager = s.manager := by
  unfold suspend
  split <;> rfl

@[simp] theorem manager_resume (s : Schedule) : s.resume.manager = s.manager := by
  unfold resume
  split <;> rfl

theorem paused_repeat_resume (n : Nat) (s : Schedule) :
    (Nat.repeat resume n s).paused.toNat = s.paused.toNat - n := by
  induction n with
  | zero => rfl
  | succ n ih =>
      simp only [Nat.repeat, paused_resume, ih]
      omega

theorem paused_repeat_suspend (n : Nat) (s : Schedule) :
    (Nat.repeat suspend n s).paused.toNat = min (s.paused.toNat + n) 65535 := by
  have hle : s.paused.toNat ≤ 65535 := by have := s.paused.toNat_lt; omega
  induction n with
  | zero => simp [Nat.repeat, hle]
  | succ n ih =>
      simp only [Nat.repeat, paused_suspend, ih]
      omega

@[simp] theorem manager_repeat_resume (n : Nat) (s : Schedule) :
    (Nat.repeat resume n s).manager = s.manager := by
  induction n with
  | zero => rfl
  | succ n ih => simp [Nat.repeat, ih]

@[simp] theorem manager_repeat_suspend (n : Nat) (s : Schedule) :
    (Nat.repeat suspend n s).manager = s.manager := by
  induction n with
  | zero => rfl
  | succ n ih => simp [Nat.repeat, ih]

/-- A schedule is equal to another with the same manager and count. -/
theorem ext_paused {s s' : Schedule} (hm : s.manager = s'.manager)
    (hp : s.paused.toNat = s'.paused.toNat) : s = s' := by
  cases s
  cases s'
  simp_all [UInt16.toNat_inj]

/-- Suspending `n` times and resuming `n` times gives back the count, unless it saturated. -/
theorem paused_repeat_resume_suspend (n : Nat) (s : Schedule) :
    (Nat.repeat resume n (Nat.repeat suspend n s)).paused.toNat =
      min (s.paused.toNat + n) 65535 - n := by
  rw [paused_repeat_resume, paused_repeat_suspend]

/-- Suspending and resuming `n` times changes nothing exactly when the count has room for the
`n` suspensions. -/
theorem repeat_resume_suspend_eq_iff {n : Nat} (hn : n ≤ 65535) (s : Schedule) :
    Nat.repeat resume n (Nat.repeat suspend n s) = s ↔ s.paused.toNat + n ≤ 65535 := by
  have hlt := s.paused.toNat_lt
  constructor
  · intro h
    have hp := congrArg (·.paused.toNat) h
    simp only [paused_repeat_resume_suspend] at hp
    omega
  · intro h
    apply ext_paused (by simp)
    rw [paused_repeat_resume_suspend]
    omega

end Schedule

namespace Entities

/-- An entity is alive only if it was spawned. -/
theorem index_lt_of_get? {es : Entities} {e : Entity} {b : Body} (h : es.get? e = some b) :
    e.index < es.slots.size := by
  unfold get? at h
  rcases Nat.lt_or_ge e.index es.slots.size with hlt | hge
  · exact hlt
  · simp [Array.getElem?_eq_none hge] at h

theorem get?_modify (es : Entities) (x : Entity) (f : Body → Body) (e : Entity) :
    (es.modify x f).get? e = if e = x then (es.get? e).map f else es.get? e := by
  unfold modify
  cases hx : es.get? x with
  | none =>
      by_cases he : e = x
      · simp [he, hx]
      · simp [he]
  | some b =>
      have hlt := index_lt_of_get? hx
      by_cases he : e = x
      · subst he
        rw [if_pos rfl, hx]
        simp [get?, hlt]
      · have hi : x.index ≠ e.index := fun h => he (by cases e; cases x; simp_all)
        simp [get?, he, hi]

@[simp] theorem size_modify (es : Entities) (x : Entity) (f : Body → Body) :
    (es.modify x f).slots.size = es.slots.size := by
  unfold modify
  split <;> simp

@[simp] theorem spawn_fst (es : Entities) (b : Body) : (es.spawn b).1 = ⟨es.slots.size⟩ := rfl

@[simp] theorem size_spawn (es : Entities) (b : Body) :
    (es.spawn b).2.slots.size = es.slots.size + 1 := by
  simp [spawn]

theorem get?_spawn (es : Entities) (b : Body) (e : Entity) :
    (es.spawn b).2.get? e = if e = (es.spawn b).1 then some b else es.get? e := by
  by_cases he : e = ⟨es.slots.size⟩
  · subst he
    simp [spawn, get?]
  · have hi : e.index ≠ es.slots.size := fun h => he (by cases e; simp_all)
    simp only [spawn, get?, he, if_false, Array.getElem?_push, hi]

theorem size_despawn {es es' : Entities} {x : Entity} (h : es.despawn x = some es') :
    es'.slots.size = es.slots.size := by
  unfold despawn at h
  split at h
  · cases h
    simp
  · cases h

theorem get?_despawn {es es' : Entities} {x : Entity} (h : es.despawn x = some es') (e : Entity) :
    es'.get? e = if e = x then none else es.get? e := by
  unfold despawn at h
  split at h
  · cases h
    by_cases he : e = x
    · subst he
      simp only [get?, Array.getElem?_setIfInBounds, if_true]
      split <;> rfl
    · have hi : x.index ≠ e.index := fun h => he (by cases e; cases x; simp_all)
      simp [get?, he, hi]
  · cases h

end Entities

namespace Stage

/-- Ticking the presentation announces only finished dialogs. -/
theorem mem_tick_events {s : Stage} {e : Event} (h : e ∈ s.tick.1) : ∃ d, e = finished d := by
  unfold tick at h
  revert h
  refine List.foldlRecOn
    (motive := fun acc : List Event × Stage => e ∈ acc.1 → ∃ d, e = finished d) _ _ (by simp) ?_
  intro acc hacc o _
  rcases acc with ⟨events, st⟩
  dsimp only
  split
  · intro he
    rcases List.mem_append.mp he with he | he
    · exact hacc he
    · exact ⟨_, List.mem_singleton.mp he⟩
  · exact hacc

/-- Finishing a dialog announces it as finished. -/
theorem finish_event {s s' : Stage} {d : DialogId} {e : Event} (h : s.finish d = some (e, s')) :
    ∃ handle, e = finished handle := by
  unfold finish at h
  obtain ⟨⟨handle, st⟩, -, heq⟩ := Option.map_eq_some_iff.mp h
  cases heq
  exact ⟨handle, rfl⟩

end Stage

namespace World

/-- The schedule of a live entity, if it carries one. -/
def scheduleOf (w : World) (e : Entity) : Option Schedule := (w.body? e).bind (·.schedule)

/-- The schedules are read off the entities alone. -/
theorem scheduleOf_congr {w w' : World} (he : w'.entities = w.entities) (e : Entity) :
    w'.scheduleOf e = w.scheduleOf e := by
  simp [scheduleOf, body?, he]

@[simp] theorem publish_entities (w : World) (e : Event) : (w.publish e).entities = w.entities :=
  rfl

@[simp] theorem publish_bus (w : World) (e : Event) : (w.publish e).bus = w.bus.publish e := rfl

@[simp] theorem publish_sessions (w : World) (e : Event) : (w.publish e).sessions = w.sessions :=
  rfl

@[simp] theorem publish_tick (w : World) (e : Event) : (w.publish e).tick = w.tick := rfl

@[simp] theorem publish_supply (w : World) (e : Event) : (w.publish e).supply = w.supply := rfl

@[simp] theorem publish_stage (w : World) (e : Event) : (w.publish e).stage = w.stage := rfl

@[simp] theorem publish_settings (w : World) (e : Event) : (w.publish e).settings = w.settings :=
  rfl

/-- Announcing several events appends them to the queue and changes nothing else. -/
theorem foldl_publish (w : World) (events : List Event) :
    events.foldl publish w = { w with bus := { w.bus with queue := w.bus.queue ++ events } } := by
  induction events generalizing w with
  | nil => simp
  | cons e rest ih => simp [ih, publish, Bus.publish]

@[simp] theorem modifyBody_entities (w : World) (x : Entity) (f : Body → Body) :
    (w.modifyBody x f).entities = w.entities.modify x f := rfl

@[simp] theorem modifyBody_bus (w : World) (x : Entity) (f : Body → Body) :
    (w.modifyBody x f).bus = w.bus := rfl

@[simp] theorem modifyBody_sessions (w : World) (x : Entity) (f : Body → Body) :
    (w.modifyBody x f).sessions = w.sessions := rfl

@[simp] theorem modifyBody_tick (w : World) (x : Entity) (f : Body → Body) :
    (w.modifyBody x f).tick = w.tick := rfl

@[simp] theorem modifyBody_supply (w : World) (x : Entity) (f : Body → Body) :
    (w.modifyBody x f).supply = w.supply := rfl

@[simp] theorem modifyBody_stage (w : World) (x : Entity) (f : Body → Body) :
    (w.modifyBody x f).stage = w.stage := rfl

@[simp] theorem modifyBody_settings (w : World) (x : Entity) (f : Body → Body) :
    (w.modifyBody x f).settings = w.settings := rfl

theorem body?_modifyBody (w : World) (x : Entity) (f : Body → Body) (e : Entity) :
    (w.modifyBody x f).body? e = if e = x then (w.body? e).map f else w.body? e :=
  Entities.get?_modify w.entities x f e

/-- A change of body that keeps the schedule keeps every schedule. -/
theorem scheduleOf_modifyBody {f : Body → Body} (hf : ∀ b, (f b).schedule = b.schedule)
    (w : World) (x e : Entity) : (w.modifyBody x f).scheduleOf e = w.scheduleOf e := by
  unfold scheduleOf
  rw [body?_modifyBody]
  split
  · cases w.body? e <;> simp [hf]
  · rfl

theorem scheduleOf_setScheduleActive (w : World) (x : Entity) (active : Bool) (e : Entity) :
    (w.setScheduleActive x active).scheduleOf e =
      if e = x then (w.scheduleOf e).map (·.setActive active) else w.scheduleOf e := by
  unfold setScheduleActive scheduleOf
  rw [body?_modifyBody]
  split
  · cases w.body? e <;> simp
  · rfl

/-- Facing turns the heading of the observer, or changes nothing. -/
theorem face_cases (w : World) (observer target : Entity) :
    w.face observer target = w ∨ ∃ d : Direction, w.face observer target =
      w.modifyBody observer
        fun b => { b with motion := b.motion.map fun m => { m with heading := d } } := by
  unfold face
  split
  · split
    · exact .inr ⟨_, rfl⟩
    · exact .inl rfl
  · exact .inl rfl

@[simp] theorem face_bus (w : World) (observer target : Entity) :
    (w.face observer target).bus = w.bus := by
  rcases face_cases w observer target with h | ⟨d, h⟩ <;> simp [h]

@[simp] theorem face_stage (w : World) (observer target : Entity) :
    (w.face observer target).stage = w.stage := by
  rcases face_cases w observer target with h | ⟨d, h⟩ <;> simp [h]

@[simp] theorem face_settings (w : World) (observer target : Entity) :
    (w.face observer target).settings = w.settings := by
  rcases face_cases w observer target with h | ⟨d, h⟩ <;> simp [h]

@[simp] theorem face_sessions (w : World) (observer target : Entity) :
    (w.face observer target).sessions = w.sessions := by
  rcases face_cases w observer target with h | ⟨d, h⟩ <;> simp [h]

@[simp] theorem face_tick (w : World) (observer target : Entity) :
    (w.face observer target).tick = w.tick := by
  rcases face_cases w observer target with h | ⟨d, h⟩ <;> simp [h]

@[simp] theorem face_supply (w : World) (observer target : Entity) :
    (w.face observer target).supply = w.supply := by
  rcases face_cases w observer target with h | ⟨d, h⟩ <;> simp [h]

@[simp] theorem size_face (w : World) (observer target : Entity) :
    (w.face observer target).entities.slots.size = w.entities.slots.size := by
  rcases face_cases w observer target with h | ⟨d, h⟩ <;> rw [h]
  simp

theorem scheduleOf_face (w : World) (observer target e : Entity) :
    (w.face observer target).scheduleOf e = w.scheduleOf e := by
  rcases face_cases w observer target with h | ⟨d, h⟩ <;> rw [h]
  apply scheduleOf_modifyBody
  intro b
  rfl

end World

end Parley
