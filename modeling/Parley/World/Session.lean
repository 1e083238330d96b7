import Parley.World.Basic

/-!
# Starting and ending interactions

An interaction starts when an initiator addresses a target. Both must be alive and carry a
schedule, and the target must carry a mind; otherwise nothing changes. Then both schedules are
suspended, the initiator stops walking and the target turns toward the initiator. The dialog
is created for the target's mind with the screen length less the margin as width, never below
zero; if the presentation refuses, both schedules are resumed and the error is returned, the
stop and the turn staying. Otherwise the session is registered for the dialog's completion
signal, the dialog is placed and opened, the session is tracked from the current tick, and its
start is announced.

An interaction ends exactly once: completed when its signal is delivered, or withdrawn, as
abandoned or timed out, which also dismisses its dialog. Ending resumes both schedules and
announces the outcome.
-/

namespace Parley

/-- The two parties of an interaction. -/
inductive Role where
  | initiator
  | target
  deriving DecidableEq, Repr

def Role.name : Role → String
  | .initiator => "initiator"
  | .target => "target"

/-- Why an action did not start an interaction. -/
inductive InteractionError where
  | unbound (role : Role)
  | noSuchEntity (role : Role) (entity : Entity)
  | missingComponent (role : Role) (entity : Entity) (component : String)
  | unhandledAction (action : ActionKind)
  | presentation (error : PresentationError)
  deriving DecidableEq, Repr

/-- How entities and dialogs are named in messages. -/
structure Naming where
  entity : Entity → String
  dialog : DialogId → String

/-- The text of a presentation error. -/
def PresentationError.message (n : Naming) : PresentationError → String
  | .unknownDialog d => s!"Dialog {n.dialog d} is unknown to the presentation layer"
  | .invalidSize w h => s!"Dialog of {w}x{h} does not fit the display"
  | .noDialogue id => s!"Character '{id}' has no dialogue script"

/-- The text of an interaction error. -/
def InteractionError.message (n : Naming) : InteractionError → String
  | .unbound r => s!"The {r.name} is not bound to a world entity"
  | .noSuchEntity r e => s!"The {r.name} entity {n.entity e} no longer exists"
  | .missingComponent r e c => s!"The {r.name} entity {n.entity e} has no {c} component"
  | .unhandledAction k => s!"Action {k.display} is not handled by this character"
  | .presentation e => s!"Presentation failed: {e.message n}"

namespace World

/-- The entity must be alive and carry a schedule. -/
def requireSchedule (w : World) (role : Role) (e : Entity) : Except InteractionError Unit :=
  match w.body? e with
  | none => .error (.noSuchEntity role e)
  | some b => if b.schedule.isSome then .ok () else .error (.missingComponent role e "Schedule")

/-- The mind of the target, which must be alive and carry one. -/
def requireMind (w : World) (e : Entity) : Except InteractionError Mind :=
  match w.body? e with
  | none => .error (.noSuchEntity .target e)
  | some b =>
    match b.mind with
    | some m => .ok m
    | none => .error (.missingComponent .target e "Mind")

/-- Resume both schedules of a pair. -/
def resumeBoth (w : World) (initiator target : Entity) : World :=
  (w.setScheduleActive initiator true).setScheduleActive target true

/-- Start an interaction; the new session, or why not, with the world after the attempt. -/
def start (w : World) (initiator target : Entity) : Except InteractionError SessionId × World :=
  match w.requireSchedule .initiator initiator, w.requireSchedule .target target,
      w.requireMind target with
  | .error e, _, _ => (.error e, w)
  | .ok _, .error e, _ => (.error e, w)
  | .ok _, .ok _, .error e => (.error e, w)
  | .ok _, .ok _, .ok mind =>
    let w := (w.setScheduleActive initiator false).setScheduleActive target false
    let w := w.modifyBody initiator fun b => { b with motion := b.motion.map Motion.stop }
    let w := w.face target initiator
    let width := w.stage.screenLength - w.settings.dialogMargin
    let (dialog, w') := w.mint
    let (signal, w') := w'.mint
    let handle : DialogHandle := ⟨⟨dialog⟩, ⟨signal⟩⟩
    match w.stage.create handle mind width w.settings.dialogHeight with
    | .error e => (.error (.presentation e), w.resumeBoth initiator target)
    | .ok stage =>
      let (id, w) := { w' with stage := stage }.mint
      let session : Session := ⟨⟨id⟩, initiator, target, handle⟩
      let (number, bus) := w.bus.listen handle.signal session
      let w := { w with bus := bus }
      match w.stage.place w.settings.dialogX w.settings.dialogY handle with
      | .error e =>
        let (_, bus) := w.bus.unlisten number
        let w := { w with bus := bus, stage := w.stage.dismiss handle.id }
        (.error (.presentation e), w.resumeBoth initiator target)
      | .ok stage =>
        let tracked : Tracked := ⟨number, handle.signal, handle.id, initiator, target, w.tick⟩
        let entry : SessionId × Tracked := (⟨id⟩, tracked)
        let w := { w with stage := stage, sessions := w.sessions ++ [entry] }
        (.ok ⟨id⟩, w.publish (.interactionStarted ⟨id⟩ initiator target handle.id))

/-- End a session: resume both schedules and announce the outcome. -/
def finishSession (w : World) (s : Session) (outcome : Outcome) : World :=
  (w.resumeBoth s.initiator s.target).publish (.interactionEnded s.id s.initiator s.target outcome)

/-- Withdraw a tracked session before its signal: stop tracking it, take back its
registration, dismiss its dialog and end it. `false` when it was not tracked, and also when its
registration could not be taken back, though it is then no longer tracked. -/
def withdraw (w : World) (id : SessionId) (outcome : Outcome) : Bool × World :=
  match w.sessions.lookup id with
  | none => (false, w)
  | some t =>
    let w := { w with sessions := w.sessions.filter (·.1 != id) }
    match w.bus.unlisten t.registration with
    | (none, bus) => (false, { w with bus := bus })
    | (some session, bus) =>
      let w := { w with bus := bus, stage := w.stage.dismiss session.dialog.id }
      (true, w.finishSession session outcome)

end World

end Parley
