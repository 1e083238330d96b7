import Mathlib
import Parley.Proofs.Component.RoundTrip
import Parley.Proofs.World.Frame

/-!
# Saving a character and restoring it onto another

A non-player character saves each part its entity carries as a nested record under the part's
key, and restoring reads every nested record present before it touches the world. Saving a
live character into a fresh record therefore succeeds, and restoring that record onto any live
character succeeds too: the target then carries each part the saved character has, a position
with its NaN coordinates made quiet, keeps its own part of each kind the saved character lacks,
and nothing else in the world changes.
-/

namespace Parley

open Record

/-- A part saved as a nested record under its key, when there is one. -/
def Record.putPart {α : Type} (r : Record) (key : String) (part : Option α)
    (save : α → Record → Record) : Record :=
  match part with
  | some p => r.putRecord key (save p Record.empty)
  | none => r

namespace Record

/-- The nested record a part is kept in. -/
def partCell {α : Type} (save : α → Record → Record) (p : α) : Cell :=
  .record (save p Record.empty).entries

theorem get?_putPart {α : Type} (r : Record) (key : String) (part : Option α)
    (save : α → Record → Record) (k : String) :
    (r.putPart key part save).get? k =
      if k = key then (part.map (partCell save)).or (r.get? k) else r.get? k := by
  cases part with
  | none =>
      by_cases hk : k = key <;> simp [putPart, hk]
  | some p =>
      simp [putPart, putRecord, get?_put, partCell]

end Record

/-- The parts a record keeps of a body: every one, the position with its NaN coordinates made
quiet. -/
def Body.saved (b : Body) : Body := { b with position := b.position.map Position.quiet }

/-- The parts of `b` laid over `base`: each part `b` carries, and `base`'s where `b` has none. -/
def Body.over (b base : Body) : Body where
  mind := b.mind.orElse fun _ => base.mind
  position := b.position.orElse fun _ => base.position
  motion := b.motion.orElse fun _ => base.motion
  schedule := b.schedule.orElse fun _ => base.schedule

namespace Participant

variable {w : World} {e : Entity} {b : Body}

/-- Saving a live character writes its parts one after another, each as a nested record. -/
theorem saveState_npc (he : w.body? e = some b) (r : Record) :
    (bound .npc e).saveState w r = .ok ((((r.putPart "mind" b.mind Mind.save).putPart "position"
      b.position Position.save).putPart "motion" b.motion Motion.save).putPart "schedule"
      b.schedule Schedule.save) := by
  simp only [saveState, bound, he]
  rfl

/-- A record saved from a live character holds each part it carries under the part's key. -/
theorem get?_saveState (he : w.body? e = some b) {R : Record}
    (hR : (bound .npc e).saveState w Record.empty = .ok R) :
    R.get? "mind" = b.mind.map (partCell Mind.save) ∧
      R.get? "position" = b.position.map (partCell Position.save) ∧
      R.get? "motion" = b.motion.map (partCell Motion.save) ∧
      R.get? "schedule" = b.schedule.map (partCell Schedule.save) := by
  rw [saveState_npc he, Except.ok.injEq] at hR
  subst hR
  simp [get?_putPart]

/-- A part reads back from the nested record it was saved in, and is absent when none was. -/
theorem restorePart_of_get? {α : Type} {r : Record} {key : String} {part : Option α}
    {save : α → Record → Record} {restore : Record → Except Record.Error α} {back : α → α}
    (hback : ∀ p, restore (save p Record.empty) = .ok (back p))
    (h : r.get? key = part.map (partCell save)) :
    restorePart r key restore = .ok (part.map back) := by
  cases part with
  | none =>
      rw [Option.map_none] at h
      simp [restorePart, getRecord?_of_get?_none h, bind, Except.bind, pure, Except.pure]
  | some p =>
      rw [Option.map_some, partCell] at h
      simp [restorePart, getRecord?_of_get? h, hback, bind, Except.bind, Functor.map,
        Except.map]

/-- Restoring parts read from a record onto a live character lays them over its own. -/
theorem restoreState_npc {r : Record} {mind : Option Mind} {position : Option Position}
    {motion : Option Motion} {schedule : Option Schedule}
    (hmind : restorePart r "mind" Mind.restore = .ok mind)
    (hposition : restorePart r "position" Position.restore = .ok position)
    (hmotion : restorePart r "motion" Motion.restore = .ok motion)
    (hschedule : restorePart r "schedule" Schedule.restore = .ok schedule)
    (he : w.entities.contains e = true) :
    (bound .npc e).restoreState w r =
      .ok (w.modifyBody e (Body.over ⟨mind, position, motion, schedule⟩)) := by
  simp only [restoreState, bound, hmind, hposition, hmotion, hschedule, he, if_true, bind,
    Except.bind, pure, Except.pure]
  rfl

end Participant

open Participant in
/-- Saving a live non-player character into a fresh record succeeds, and restoring the record
onto any live non-player character, the same one or another, succeeds too. The target then
carries each part the saved character has, a position with its NaN coordinates made the quiet
NaN and every other coordinate bit for bit, keeps its own part of each kind the saved character
lacks, and no other entity and nothing else in the world changes. -/
theorem npc_state_round_trip {w : World} {e e₂ : Entity} {b b₂ : Body}
    (he : w.body? e = some b) (he₂ : w.body? e₂ = some b₂) :
    ∃ R, (bound .npc e).saveState w Record.empty = .ok R ∧
      ∃ w', (bound .npc e₂).restoreState w R = .ok w' ∧
        w'.body? e₂ = some (b.saved.over b₂) ∧
        (∀ x, x ≠ e₂ → w'.body? x = w.body? x) ∧
        { w' with entities := w.entities } = w := by
  refine ⟨_, saveState_npc he Record.empty, ?_⟩
  -- each part sits under its own key of the saved record and reads back from there
  obtain ⟨hmind, hposition, hmotion, hschedule⟩ := get?_saveState he (saveState_npc he _)
  have hlive : w.entities.contains e₂ = true := by
    show (w.body? e₂).isSome = true
    rw [he₂]
    rfl
  refine ⟨_, restoreState_npc (restorePart_of_get? Mind.restore_save hmind)
    (restorePart_of_get? Position.restore_save hposition)
    (restorePart_of_get? Motion.restore_save hmotion)
    (restorePart_of_get? Schedule.restore_save hschedule) hlive, ?_, ?_, rfl⟩
  · rw [World.body?_modifyBody, if_pos rfl, he₂]
    simp [Body.saved]
  · intro x hx
    rw [World.body?_modifyBody, if_neg hx]

/-- A guard carrying every part, standing at a signalling NaN and paused as often as a count
allows. -/
def guard : Body where
  mind := some ⟨"guard", "Guard", "guard", 0xFF0000, some "guard.png"⟩
  position := some ⟨Binary32.ofPattern 0x7F800001, Binary32.ofNat 3, Binary32.zero⟩
  motion := some ⟨⟨true, false, true, false⟩, .south⟩
  schedule := some ⟨"patrol", 65535⟩

/-- A clerk with a mind only. -/
def clerk : Body where
  mind := some (Mind.new "clerk" "Clerk")

/-- A world of the guard and the clerk. -/
def guardAndClerk : World :=
  (((World.new (Stage.new 640 none) {}).spawn guard).2.spawn clerk).2

theorem guard_restored_onto_clerk :
    guardAndClerk.body? ⟨0⟩ = some guard ∧ guardAndClerk.body? ⟨1⟩ = some clerk ∧
    ∃ R, (Participant.bound .npc ⟨0⟩).saveState guardAndClerk Record.empty = .ok R ∧
      ∃ w', (Participant.bound .npc ⟨1⟩).restoreState guardAndClerk R = .ok w' ∧
        w'.body? ⟨1⟩ = some (guard.saved.over clerk) ∧
        (∀ x, x ≠ ⟨1⟩ → w'.body? x = guardAndClerk.body? x) ∧
        { w' with entities := guardAndClerk.entities } = guardAndClerk :=
  ⟨rfl, rfl, npc_state_round_trip rfl rfl⟩

end Parley
