import Parley.Proofs.World.Race

/-!
# What an action answers

A character addressed with an action answers by a list of checks taken in order, the first that
fails naming the error. An action other than the normal one is met by the policy on unknown
actions, whoever is bound. The normal action asks, in order: the initiator bound, the target
bound, each party alive and carrying a schedule, the target carrying a mind, a dialog of some
height whose width, the screen length less the margin, is not zero, and a dialogue script. When
all pass the target remembers the new session.

The width never exceeds the screen length, since the margin is taken off without going below
zero; and a dialog just created is placed without fail, since its identifier is fresh and the
history, made room in before the request is added, keeps the request it was just given.

Main statement: `action_answer`.
-/

namespace Parley

/-- The answer of checks taken in order: the error of the first that fails, or success when all
pass. -/
def verdict {ε : Type} : List (Bool × ε) → Except ε Unit
  | [] => .ok ()
  | (pass, e) :: rest => if pass then verdict rest else .error e

@[simp] theorem verdict_nil {ε : Type} : verdict ([] : List (Bool × ε)) = .ok () := rfl

@[simp] theorem verdict_cons_true {ε : Type} (e : ε) (rest : List (Bool × ε)) :
    verdict ((true, e) :: rest) = verdict rest := rfl

@[simp] theorem verdict_cons_false {ε : Type} (e : ε) (rest : List (Bool × ε)) :
    verdict ((false, e) :: rest) = .error e := rfl

/-- Checks in two groups answer as the first group, then the second if the first passes. -/
theorem verdict_append {ε : Type} (l₁ l₂ : List (Bool × ε)) :
    verdict (l₁ ++ l₂) = verdict l₁ >>= fun _ => verdict l₂ := by
  induction l₁ with
  | nil => rfl
  | cons c rest ih =>
      obtain ⟨pass, e⟩ := c
      cases pass
      · rfl
      · exact ih

namespace World

variable {w : World}

/-- The mind of a live entity. -/
def mindOf (w : World) (e : Entity) : Option Mind := (w.body? e).bind (·.mind)

/-- What an interaction asks of one of its parties, in order: to be alive, then to carry a
schedule. -/
def partyChecks (w : World) (role : Role) (e : Entity) : List (Bool × InteractionError) :=
  [((w.body? e).isSome, .noSuchEntity role e),
    ((w.scheduleOf e).isSome, .missingComponent role e "Schedule")]

/-- What starting an interaction asks before it changes anything, in order: the initiator, the
target, then a mind on the target. -/
def admissionChecks (w : World) (i t : Entity) : List (Bool × InteractionError) :=
  w.partyChecks .initiator i ++ w.partyChecks .target t ++
    [((w.mindOf t).isSome, .missingComponent .target t "Mind")]

/-- What the presentation asks of a conversation with a mind, in order: a dialog of some height
whose width is not zero, which holds exactly when the margin is shorter than the screen, then a
dialogue script. -/
def presentationChecks (w : World) (mind : Mind) : List (Bool × InteractionError) :=
  [(0 < w.settings.dialogHeight && w.settings.dialogMargin < w.stage.screenLength,
      .presentation (.invalidSize w.dialogWidth w.settings.dialogHeight)),
    (mind.hasDialogue, .presentation (.noDialogue mind.id))]

/-- Every check of a conversation that `initiator` starts with `target`, in order. -/
def conversationChecks (w : World) (initiator target : Participant) :
    List (Bool × InteractionError) :=
  [(initiator.entity.isSome, .unbound .initiator), (target.entity.isSome, .unbound .target)] ++
    match initiator.entity, target.entity with
    | some i, some t => w.admissionChecks i t ++ ((w.mindOf t).map w.presentationChecks).getD []
    | _, _ => []

theorem requireSchedule_eq_verdict (w : World) (role : Role) (e : Entity) :
    w.requireSchedule role e = verdict (w.partyChecks role e) := by
  unfold requireSchedule partyChecks scheduleOf
  cases w.body? e with
  | none => rfl
  | some b => cases b.schedule <;> rfl

/-- The mind check of a target that passed its schedule check. -/
theorem requireMind_eq_of_alive {t : Entity} (h : (w.body? t).isSome) :
    w.requireMind t = match w.mindOf t with
      | some m => .ok m
      | none => .error (.missingComponent .target t "Mind") := by
  unfold requireMind mindOf
  obtain ⟨b, hb⟩ := Option.isSome_iff_exists.mp h
  rw [hb]
  rfl

theorem alive_of_partyChecks {role : Role} {e : Entity}
    (h : verdict (w.partyChecks role e) = .ok ()) : (w.body? e).isSome := by
  unfold partyChecks at h
  cases ha : (w.body? e).isSome
  · rw [ha] at h
    cases h
  · rfl

/-- A start whose admission fails answers that failure and changes nothing. -/
theorem start_of_refused {i t : Entity} {err : InteractionError}
    (h : verdict (w.admissionChecks i t) = .error err) : w.start i t = (.error err, w) := by
  unfold admissionChecks at h
  rw [verdict_append, verdict_append] at h
  unfold start
  rw [requireSchedule_eq_verdict, requireSchedule_eq_verdict]
  cases hi : verdict (w.partyChecks .initiator i) with
  | error e =>
      rw [hi] at h
      cases h
      rfl
  | ok u =>
      cases ht : verdict (w.partyChecks .target t) with
      | error e =>
          rw [hi, ht] at h
          cases h
          rfl
      | ok u' =>
          rw [hi, ht] at h
          rw [requireMind_eq_of_alive (alive_of_partyChecks ht)]
          cases hm : w.mindOf t with
          | none =>
              rw [hm] at h
              cases h
              rfl
          | some m =>
              rw [hm] at h
              cases h

/-- A passed admission admits the interaction with the target's mind. -/
theorem admits_of_verdict {i t : Entity} {m : Mind}
    (h : verdict (w.admissionChecks i t) = .ok ()) (hm : w.mindOf t = some m) :
    w.Admits i t m := by
  unfold admissionChecks at h
  rw [verdict_append, verdict_append] at h
  cases hi : verdict (w.partyChecks .initiator i) with
  | error e =>
      rw [hi] at h
      cases h
  | ok u =>
      cases ht : verdict (w.partyChecks .target t) with
      | error e =>
          rw [hi, ht] at h
          cases h
      | ok u' =>
          refine ⟨by rw [requireSchedule_eq_verdict, hi], by rw [requireSchedule_eq_verdict, ht],
            ?_⟩
          rw [requireMind_eq_of_alive (alive_of_partyChecks ht), hm]

theorem mindOf_of_admits {i t : Entity} {m : Mind} (h : w.Admits i t m) : w.mindOf t = some m := by
  have halive := alive_of_partyChecks (h.2.1.symm.trans (requireSchedule_eq_verdict w _ t)).symm
  have hm := h.2.2
  rw [requireMind_eq_of_alive halive] at hm
  cases hmind : w.mindOf t with
  | none =>
      rw [hmind] at hm
      cases hm
  | some m' =>
      rw [hmind] at hm
      cases hm
      rfl

/-- The presentation answers a conversation of the configured size by the presentation checks. -/
theorem create_answer (w : World) (handle : DialogHandle) (mind : Mind) :
    ((w.stage.create handle mind w.dialogWidth w.settings.dialogHeight).map fun _ => ()).mapError
      .presentation = verdict (w.presentationChecks mind) := by
  unfold Stage.create presentationChecks dialogWidth
  -- the width is zero exactly when the margin reaches the screen length, and never too wide
  have hsize : (w.stage.screenLength - w.settings.dialogMargin = 0 ∨
      w.settings.dialogHeight = 0 ∨
      w.stage.screenLength < w.stage.screenLength - w.settings.dialogMargin) ↔
      ¬(0 < w.settings.dialogHeight ∧ w.settings.dialogMargin < w.stage.screenLength) := by
    omega
  by_cases hfit : 0 < w.settings.dialogHeight ∧ w.settings.dialogMargin < w.stage.screenLength
  · have hno : ¬(w.stage.screenLength - w.settings.dialogMargin = 0 ∨
        w.settings.dialogHeight = 0 ∨
        w.stage.screenLength < w.stage.screenLength - w.settings.dialogMargin) :=
      fun h => hsize.mp h hfit
    rw [if_neg hno]
    simp only [hfit.1, hfit.2, decide_true, Bool.and_self, verdict_cons_true]
    cases mind.hasDialogue <;> rfl
  · rw [if_pos (hsize.mpr hfit)]
    have hfalse : (decide (0 < w.settings.dialogHeight) &&
        decide (w.settings.dialogMargin < w.stage.screenLength)) = false := by
      simpa using hfit
    rw [hfalse, verdict_cons_false]
    rfl

/-- A dialog created on the stage of a world whose identifiers were all drawn from its supply
can be placed: its request is the last of the history, neither placed nor dismissed. -/
theorem Drawn.place_created (hd : w.Drawn) {mind : Mind} {width height : Nat} {stage : Stage}
    (hc : w.stage.create w.nextHandle mind width height = .ok stage) (x y : Int) :
    ∃ stage', stage.place x y w.nextHandle = .ok stage' := by
  have hS := hd.sound.create hd.fresh hc
  refine (Stage.place_ok_iff hS x y w.nextHandle).mpr
    ⟨⟨w.nextHandle, mind, width, height, none, false⟩, ?_, rfl, rfl, rfl⟩
  rw [Stage.create_eq_ok hc]
  exact List.mem_append_right _ (List.mem_singleton_self _)

/-- Starting an interaction in a world whose identifiers were all drawn from its supply answers
the first failed check of the admission and the presentation, or the next session. -/
theorem Drawn.start_fst (hd : w.Drawn) (i t : Entity) :
    (w.start i t).1 = (verdict (w.admissionChecks i t ++
      ((w.mindOf t).map w.presentationChecks).getD [])).map fun _ => w.nextId := by
  cases hadm : verdict (w.admissionChecks i t) with
  | error err =>
      rw [start_of_refused hadm, verdict_append, hadm]
      rfl
  | ok u =>
      -- the admission passed, so the target has a mind
      obtain ⟨m, hm⟩ : ∃ m, w.mindOf t = some m := by
        unfold admissionChecks at hadm
        rw [verdict_append] at hadm
        cases hmind : w.mindOf t with
        | none =>
            rw [hmind] at hadm
            cases hv : verdict (w.partyChecks .initiator i ++ w.partyChecks .target t) <;>
              rw [hv] at hadm <;> cases hadm
        | some m => exact ⟨m, rfl⟩
      have hA := admits_of_verdict hadm hm
      rw [verdict_append, hadm, hm]
      simp only [bind, Except.bind, Option.map_some, Option.getD_some]
      have hspec := start_spec w i t
      generalize w.start i t = r at hspec ⊢
      cases hspec with
      | refused err hno _ => exact absurd hA (hno m)
      | notCreated m' err hA' hc =>
          obtain rfl : m' = m := Option.some.inj ((mindOf_of_admits hA').symm.trans hm)
          rw [← create_answer w w.nextHandle m', hc]
          rfl
      | notPlaced m' stage err hA' hc hp =>
          obtain ⟨stage', hp'⟩ := hd.place_created hc w.settings.dialogX w.settings.dialogY
          rw [hp] at hp'
          cases hp'
      | placed m' stage stage' hA' hc _ =>
          obtain rfl : m' = m := Option.some.inj ((mindOf_of_admits hA').symm.trans hm)
          rw [← create_answer w w.nextHandle m', hc]
          rfl

end World

/-- A normal action between bound characters answers as starting the interaction does, the
target remembering the session started. -/
theorem Participant.performAction_fst_of_bound {target initiator : Participant}
    {action : ActionKind} {i t : Entity} (hc : action.code = 0) (hi : initiator.entity = some i)
    (ht : target.entity = some t) (w : World) :
    (target.performAction w action initiator).1 =
      (w.start i t).1.map fun s => { target with interaction := some s } := by
  unfold Participant.performAction Interaction.ofAction?
  simp only [hc, if_true, hi, ht]
  rcases w.start i t with ⟨_ | s, w'⟩ <;> rfl

/-- In every world a script reaches from a new presentation: an action other than the normal one
is ignored or rejected as the policy says, whoever is bound; the normal action answers with the
first failed check of the conversation, or with the target remembering the next session when
all pass. The dialog is never wider than the screen, and placing a dialog the start has just
created never fails. -/
theorem action_answer {w : World} {D : List Event} (hw : Booted w D)
    (target initiator : Participant) (action : ActionKind) :
    (target.performAction w action initiator).1 =
        (if action.code = 0 then
          (verdict (w.conversationChecks initiator target)).map
            fun _ => { target with interaction := some w.nextId }
        else if w.settings.unknownActions = .ignore then .ok target
        else .error (.unhandledAction action)) ∧
      w.dialogWidth ≤ w.stage.screenLength ∧
      ∀ mind stage,
        w.stage.create w.nextHandle mind w.dialogWidth w.settings.dialogHeight = .ok stage →
          ∃ stage',
            stage.place w.settings.dialogX w.settings.dialogY w.nextHandle = .ok stage' := by
  have hd := hw.drawn
  refine ⟨?answer, Nat.sub_le _ _, fun mind stage hc => hd.place_created hc _ _⟩
  by_cases hk : action.code = 0
  · rw [if_pos hk]
    cases hi : initiator.entity with
    | none =>
        unfold Participant.performAction Interaction.ofAction?
        simp only [hk, if_true, hi, World.conversationChecks, Option.isSome_none, List.cons_append,
          verdict_cons_false]
        rfl
    | some i =>
        cases ht : target.entity with
        | none =>
            unfold Participant.performAction Interaction.ofAction?
            simp only [hk, if_true, hi, ht, World.conversationChecks, Option.isSome_none,
              Option.isSome_some, List.cons_append, verdict_cons_true, verdict_cons_false]
            rfl
        | some t =>
            rw [Participant.performAction_fst_of_bound hk hi ht, hd.start_fst]
            simp only [World.conversationChecks, hi, ht, Option.isSome_some, List.cons_append,
              List.nil_append, verdict_cons_true]
            rcases verdict (w.admissionChecks i t ++
              ((w.mindOf t).map w.presentationChecks).getD []) with _ | _ <;> rfl
  · unfold Participant.performAction Interaction.ofAction?
    simp only [hk, if_false]
    cases w.settings.unknownActions <;> rfl

/-- A shopkeeper keeping a schedule, with a greeting to say. -/
def keeper : Body where
  schedule := some ⟨"shop", 0⟩
  mind := some ⟨"keeper", "Keeper", "greeting", 0, none⟩

/-- A visitor keeping a schedule and a keeper, on a new stage. -/
def shopfront : World :=
  (Op.spawn keeper).apply
    ((Op.spawn { schedule := some ⟨"wander", 0⟩ }).apply (World.new (Stage.new 640 none) {}))

theorem shopfront_action_answer : Booted shopfront [] ∧ ∀ target initiator action,
    (target.performAction shopfront action initiator).1 =
        (if action.code = 0 then
          (verdict (shopfront.conversationChecks initiator target)).map
            fun _ => { target with interaction := some shopfront.nextId }
        else if shopfront.settings.unknownActions = .ignore then .ok target
        else .error (.unhandledAction action)) ∧
      shopfront.dialogWidth ≤ shopfront.stage.screenLength ∧
      ∀ mind stage, shopfront.stage.create shopfront.nextHandle mind shopfront.dialogWidth
          shopfront.settings.dialogHeight = .ok stage →
        ∃ stage', stage.place shopfront.settings.dialogX shopfront.settings.dialogY
          shopfront.nextHandle = .ok stage' := by
  have hrun : Booted shopfront [] := .step (D := []) _ (.step (D := []) _ (.new _ _ _))
  exact ⟨hrun, action_answer hrun⟩

/-- The keeper addressing the visitor is refused at the first check that fails: the visitor has
no mind. -/
example : verdict (shopfront.conversationChecks (.bound .npc ⟨1⟩) (.bound .npc ⟨0⟩)) =
    .error (.missingComponent .target ⟨0⟩ "Mind") := rfl

end Parley
