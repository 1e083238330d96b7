import Parley.Proofs.World.Saving

/-!
# Restoring a character from a record that does not fit

A non-player character restores its entity's parts from the nested records under `mind`,
`position`, `motion` and `schedule`, and it reads all four, in that order, before it looks at
the world. A part is malformed when its key holds a cell of another kind than a record, or a
record the component cannot be read from. Restoring then fails with the error of the first
malformed part, whether the entity is alive or not: a broken record is reported before a
missing entity. With every part readable, a dead entity is the error, and a live one takes
exactly the parts whose keys the record holds; no other part of it, no other entity and nothing
else in the world changes. A failed restore hands back no world, so the world it was given
stands as it was.

Saving a dead character fails before it writes anything, and plain characters and unbound
ones neither save nor restore anything.
-/

namespace Parley

/-- The error a computation ended with, `none` when it succeeded. -/
def errorOf {ε α : Type} : Except ε α → Option ε
  | .error e => some e
  | .ok _ => none

namespace Record

/-- How the cell under a part's key reads as the part: an absent key is an absent part, a
nested record is read by the component, and a cell of any other kind is malformed. -/
def readPart {α : Type} (key : String) (decode : Record → Except Error α) :
    Option Cell → Except Error (Option α)
  | none => .ok none
  | some (.record entries) => (decode ⟨entries⟩).map some
  | some c => .error (.typeMismatch key c.kind .record)

/-- The errors of the four parts a record holds for a character, in the order they are read. -/
def partErrors (r : Record) : List (Option Error) :=
  [errorOf (readPart "mind" Mind.restore (r.get? "mind")),
    errorOf (readPart "position" Position.restore (r.get? "position")),
    errorOf (readPart "motion" Motion.restore (r.get? "motion")),
    errorOf (readPart "schedule" Schedule.restore (r.get? "schedule"))]

/-- The error of the first malformed part, `none` when every part reads. -/
def firstMalformed (r : Record) : Option Error := r.partErrors.findSome? id

/-- The parts a record holds, each read from its nested record. -/
def heldParts (r : Record) : Body where
  mind := (readPart "mind" Mind.restore (r.get? "mind")).toOption.join
  position := (readPart "position" Position.restore (r.get? "position")).toOption.join
  motion := (readPart "motion" Motion.restore (r.get? "motion")).toOption.join
  schedule := (readPart "schedule" Schedule.restore (r.get? "schedule")).toOption.join

/-- The keys of a character's parts, in the order they are read. -/
def partKeys : List String := ["mind", "position", "motion", "schedule"]

/-- A part that reads is there exactly when its key holds a cell. -/
theorem isSome_of_readPart {α : Type} {key : String} {decode : Record → Except Error α}
    {c : Option Cell} {p : Option α} (h : readPart key decode c = .ok p) :
    p.isSome = c.isSome := by
  cases c with
  | none =>
      cases h
      rfl
  | some c =>
      cases c with
      | record entries =>
          cases hd : decode ⟨entries⟩ with
          | error err => simp [readPart, hd, Except.map] at h
          | ok x =>
              simp only [readPart, hd, Except.map, Except.ok.injEq] at h
              subst h
              rfl
      | bool _ | integer _ | float _ | string _ => cases h

end Record

/-- Which of the four parts a body carries, in the order mind, position, motion, schedule. -/
def Body.carried (b : Body) : List Bool :=
  [b.mind.isSome, b.position.isSome, b.motion.isSome, b.schedule.isSome]

namespace Participant

open Record

/-- A part reads from the cell under its key alone. -/
theorem restorePart_eq_readPart {α : Type} (r : Record) (key : String)
    (decode : Record → Except Error α) :
    restorePart r key decode = readPart key decode (r.get? key) := by
  unfold restorePart getRecord?
  cases r.get? key with
  | none => rfl
  | some c => cases c <;> rfl

variable {w : World} {e : Entity} {i : Option SessionId} {r : Record}

/-- A live entity is one with a body. -/
theorem contains_iff_isSome : w.entities.contains e = (w.body? e).isSome := rfl

/-- Restoring a non-player character reads every part before it looks at the world: the first
malformed part is the error, and otherwise a dead entity is. -/
theorem restoreState_npc_eq (w : World) (e : Entity) (i : Option SessionId) (r : Record) :
    (⟨.npc, some e, i⟩ : Participant).restoreState w r =
      r.firstMalformed.elim
        (if w.entities.contains e then .ok (w.modifyBody e r.heldParts.over)
          else .error (.noSuchEntity e))
        fun err => .error (.record err) := by
  simp only [restoreState, restorePart_eq_readPart]
  unfold firstMalformed partErrors heldParts
  generalize readPart "mind" Mind.restore (r.get? "mind") = mind
  generalize readPart "position" Position.restore (r.get? "position") = position
  generalize readPart "motion" Motion.restore (r.get? "motion") = motion
  generalize readPart "schedule" Schedule.restore (r.get? "schedule") = schedule
  -- the first part that fails decides the error; past four readable parts the world decides
  cases mind <;> cases position <;> cases motion <;> cases schedule <;> rfl

theorem restoreState_of_malformed {err : Error} (h : r.firstMalformed = some err) :
    (⟨.npc, some e, i⟩ : Participant).restoreState w r = .error (.record err) := by
  rw [restoreState_npc_eq, h]
  rfl

theorem restoreState_of_readable (h : r.firstMalformed = none) :
    (⟨.npc, some e, i⟩ : Participant).restoreState w r =
      if w.entities.contains e then .ok (w.modifyBody e r.heldParts.over)
      else .error (.noSuchEntity e) := by
  rw [restoreState_npc_eq, h]
  rfl

theorem restoreState_of_alive {b : Body} (h : r.firstMalformed = none)
    (hb : w.body? e = some b) :
    (⟨.npc, some e, i⟩ : Participant).restoreState w r = .ok (w.modifyBody e r.heldParts.over) := by
  rw [restoreState_of_readable h, contains_iff_isSome, hb]
  rfl

theorem restoreState_of_dead (h : r.firstMalformed = none) (hb : w.body? e = none) :
    (⟨.npc, some e, i⟩ : Participant).restoreState w r = .error (.noSuchEntity e) := by
  rw [restoreState_of_readable h, contains_iff_isSome, hb]
  rfl

/-- A restore of a bound non-player character ends in one of three ways: the error of the first
malformed part, a dead entity once every part reads, or the entity carrying what was read. -/
theorem restoreState_npc_cases (w : World) (e : Entity) (i : Option SessionId) (r : Record) :
    (∃ err, r.firstMalformed = some err ∧
        (⟨.npc, some e, i⟩ : Participant).restoreState w r = .error (.record err)) ∨
      (r.firstMalformed = none ∧ w.body? e = none ∧
        (⟨.npc, some e, i⟩ : Participant).restoreState w r = .error (.noSuchEntity e)) ∨
      ∃ b, r.firstMalformed = none ∧ w.body? e = some b ∧
        (⟨.npc, some e, i⟩ : Participant).restoreState w r =
          .ok (w.modifyBody e r.heldParts.over) := by
  cases hf : r.firstMalformed with
  | some err => exact Or.inl ⟨err, rfl, restoreState_of_malformed hf⟩
  | none =>
      cases hb : w.body? e with
      | none => exact Or.inr (Or.inl ⟨rfl, rfl, restoreState_of_dead hf hb⟩)
      | some b => exact Or.inr (Or.inr ⟨b, rfl, rfl, restoreState_of_alive hf hb⟩)

theorem errorOf_eq_none {ε α : Type} {x : Except ε α} : errorOf x = none ↔ ∃ v, x = .ok v := by
  cases x <;> simp [errorOf]

/-- Where no part is malformed, each of the four reads. -/
theorem readable_of_firstMalformed (h : r.firstMalformed = none) :
    (∃ mind, readPart "mind" Mind.restore (r.get? "mind") = .ok mind) ∧
      (∃ position, readPart "position" Position.restore (r.get? "position") = .ok position) ∧
      (∃ motion, readPart "motion" Motion.restore (r.get? "motion") = .ok motion) ∧
      ∃ schedule, readPart "schedule" Schedule.restore (r.get? "schedule") = .ok schedule := by
  have hall := List.findSome?_eq_none_iff.mp h
  simp only [partErrors, List.mem_cons, List.not_mem_nil, or_false, forall_eq_or_imp,
    forall_eq, id] at hall
  obtain ⟨hm, hp, hmo, hs⟩ := hall
  exact ⟨errorOf_eq_none.mp hm, errorOf_eq_none.mp hp, errorOf_eq_none.mp hmo,
    errorOf_eq_none.mp hs⟩

/-- Where no part is malformed, the parts read are exactly those whose keys the record holds. -/
theorem carried_heldParts (h : r.firstMalformed = none) :
    r.heldParts.carried = partKeys.map r.contains := by
  obtain ⟨⟨mind, hm⟩, ⟨position, hp⟩, ⟨motion, hmo⟩, ⟨schedule, hs⟩⟩ :=
    readable_of_firstMalformed h
  -- a part that reads is there exactly when its key holds a cell
  simp only [heldParts, Body.carried, hm, hp, hmo, hs, Except.toOption, Option.join_some,
    partKeys, List.map_cons, List.map_nil, Record.contains, isSome_of_readPart hm,
    isSome_of_readPart hp, isSome_of_readPart hmo, isSome_of_readPart hs]

end Participant

open Participant Record in
/-- Restoring a non-player character bound to `e` reads the record's four parts before it
touches the world. It fails with the error of the first malformed part, whatever the world;
with every part readable it fails only when `e` is dead, naming `e`; and it succeeds exactly
when every part reads and `e` is alive. Then `e` carries each part the record holds, read from
its nested record, keeps the parts the record lacks, and no other entity and nothing else in
the world changes. Saving a dead non-player character fails naming it, and a plain character or
an unbound one saves the record as it was and restores the world as it was. -/
theorem npc_restore_outcome (w : World) (e : Entity) (i : Option SessionId) (r : Record) :
    (∀ err, (⟨.npc, some e, i⟩ : Participant).restoreState w r = .error (.record err) ↔
        r.firstMalformed = some err) ∧
      (∀ x, (⟨.npc, some e, i⟩ : Participant).restoreState w r = .error (.noSuchEntity x) ↔
        x = e ∧ r.firstMalformed = none ∧ w.body? e = none) ∧
      ((∃ w', (⟨.npc, some e, i⟩ : Participant).restoreState w r = .ok w') ↔
        r.firstMalformed = none ∧ (w.body? e).isSome) ∧
      (∀ w', (⟨.npc, some e, i⟩ : Participant).restoreState w r = .ok w' →
        ∃ b, w.body? e = some b ∧ w'.body? e = some (r.heldParts.over b) ∧
          r.heldParts.carried = partKeys.map r.contains ∧
          (∀ x, x ≠ e → w'.body? x = w.body? x) ∧ { w' with entities := w.entities } = w) ∧
      (w.body? e = none →
        (⟨.npc, some e, i⟩ : Participant).saveState w r = .error (.noSuchEntity e)) ∧
      (∀ p : Participant, p.kind = .character ∨ p.entity = none →
        p.saveState w r = .ok r ∧ p.restoreState w r = .ok w) := by
  have hcases := restoreState_npc_cases w e i r
  refine ⟨fun err => ⟨fun h => ?_, restoreState_of_malformed⟩, fun x => ⟨fun h => ?_, ?_⟩,
    ⟨?_, ?_⟩, fun w' h => ?_, fun hd => ?_, fun p hp => ?_⟩
  · -- a record error comes from a malformed part, whatever the world
    rcases hcases with ⟨err', hf, hr⟩ | ⟨-, -, hr⟩ | ⟨b, -, -, hr⟩ <;> rw [hr] at h <;> cases h
    exact hf
  · -- a missing entity is reported only past four readable parts
    rcases hcases with ⟨err', -, hr⟩ | ⟨hf, hb, hr⟩ | ⟨b, -, -, hr⟩ <;> rw [hr] at h <;> cases h
    exact ⟨rfl, hf, hb⟩
  · rintro ⟨rfl, hf, hb⟩
    exact restoreState_of_dead hf hb
  · rintro ⟨w', h⟩
    rcases hcases with ⟨err', -, hr⟩ | ⟨-, -, hr⟩ | ⟨b, hf, hb, -⟩
    · rw [hr] at h; cases h
    · rw [hr] at h; cases h
    · rw [hb]
      exact ⟨hf, rfl⟩
  · rintro ⟨hf, hb⟩
    obtain ⟨b, hb⟩ := Option.isSome_iff_exists.mp hb
    exact ⟨_, restoreState_of_alive hf hb⟩
  · -- a restore that succeeds read every part and found `e` alive
    rcases hcases with ⟨err', -, hr⟩ | ⟨-, -, hr⟩ | ⟨b, hf, hb, hr⟩ <;> rw [hr] at h <;> cases h
    refine ⟨b, hb, ?_, carried_heldParts hf, fun x hx => ?_, rfl⟩
    · rw [World.body?_modifyBody, if_pos rfl, hb]
      rfl
    · rw [World.body?_modifyBody, if_neg hx]
  · simp only [saveState, hd]
  · rcases p with ⟨kind, entity, interaction⟩
    rcases hp with hk | he
    · cases hk
      exact ⟨rfl, rfl⟩
    · cases he
      cases kind <;> exact ⟨rfl, rfl⟩

/-- A record whose position is a number and whose motion names no direction. -/
def brokenRecord : Record :=
  (Record.empty.putInteger "position" 3).putRecord "motion" (Record.empty.putNat "dir" 258)

/-- Restored onto an entity that never lived, the record fails on its position, the first of its
malformed parts, and not on its motion or on the missing entity. -/
theorem broken_position_reported_first :
    guardAndClerk.body? ⟨7⟩ = none ∧
      (⟨.npc, some ⟨7⟩, none⟩ : Participant).restoreState guardAndClerk brokenRecord =
        .error (.record (.typeMismatch "position" .integer .record)) :=
  ⟨rfl, ((npc_restore_outcome guardAndClerk ⟨7⟩ none brokenRecord).1 _).mpr rfl⟩

end Parley
