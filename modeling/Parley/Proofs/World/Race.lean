import Parley.Proofs.World.Timeout
import Parley.Proofs.Stage.Presenting

/-!
# The dialog's countdown against the timeout

An interaction opens its dialog with the presentation's countdown of `A` ticks, if any, and the
world times it out `T` ticks after its start. Each runs at least one tick, and on a tie the
countdown wins, since a tick delivers the dialogs the presentation finished before it sweeps the
timeouts: left alone, the interaction completes in the `max A 1`-th tick after its start when
that is no later than the `max T 1`-th, and is timed out in the `max T 1`-th otherwise
(`raceEnd`).

Left alone means that no operation finishes its dialog, abandons it or announces its signal
(`Op.Leaves`); every other operation may happen meanwhile, other interactions starting and
ending included. The proof follows one interaction along such a run (`Waits`): it stays
tracked, its dialog stays open with the countdown gone down once per tick, no other open dialog
has its signal and no other tracked interaction its dialog. Every dialog, signal and tracked
dialog the world holds was drawn from the supply (`World.Drawn`), so what starts later is
distinct from it; that holds of every world a script reaches from a new presentation (`Booted`).
-/

namespace Parley

/-! ## Who wins -/

/-- When an interaction left alone ends, in ticks after its start, and how: its dialog's
countdown of `autoFinish` ticks, if any, against a timeout of `timeout` ticks, each at least one
tick, the countdown winning a tie. -/
def raceEnd (autoFinish : Option Nat) (timeout : Nat) : Nat × Outcome :=
  match autoFinish with
  | some a => if max a 1 ≤ max timeout 1 then (max a 1, .completed) else (max timeout 1, .timedOut)
  | none => (max timeout 1, .timedOut)

/-- The race is not over after `n` ticks while neither the countdown nor the timeout has run
out. -/
theorem lt_raceEnd_iff {A : Option Nat} {T n : Nat} :
    n < (raceEnd A T).1 ↔ (∀ a, A = some a → n < max a 1) ∧ n < max T 1 := by
  cases A with
  | none => simp [raceEnd]
  | some a =>
      simp only [raceEnd, Option.some.injEq, forall_eq']
      split <;> omega

/-- A countdown running out in the next tick, before the timeout has, wins the race. -/
theorem raceEnd_of_expires {a T n : Nat} (hT : n < max T 1) (ha : n + 1 = max a 1) :
    raceEnd (some a) T = (n + 1, .completed) := by
  rw [raceEnd, if_pos (by omega), ha]

/-- A timeout running out in the next tick, before the countdown, wins the race. -/
theorem raceEnd_of_timeout {A : Option Nat} {T n : Nat} (hA : ∀ a, A = some a → n + 1 < max a 1)
    (hT : n + 1 = max T 1) : raceEnd A T = (n + 1, .timedOut) := by
  cases A with
  | none => rw [raceEnd, hT]
  | some a =>
      have := hA a rfl
      rw [raceEnd, if_neg (by omega), hT]

example : raceEnd (some 3) 3 = (3, .completed) := rfl

example : raceEnd none 0 = (1, .timedOut) := rfl

/-! ## Identifiers drawn from the supply -/

namespace Stage

variable {s s' : Stage} {n : Nat}

/-- Every dialog the stage was asked for and every signal it shows is below `n`. -/
structure Below (s : Stage) (n : Nat) : Prop where
  requests : ∀ r ∈ s.requests, r.dialog.id.val < n
  signals : ∀ o ∈ s.openDialogs, o.handle.signal.val < n

theorem Below.mono {m : Nat} (h : s.Below n) (hnm : n ≤ m) : s.Below m :=
  ⟨fun r hr => Nat.lt_of_lt_of_le (h.requests r hr) hnm,
    fun o ho => Nat.lt_of_lt_of_le (h.signals o ho) hnm⟩

theorem Below.tick (h : s.Below n) (hS : s.Sound) : s.tick.2.Below n := by
  refine ⟨by rw [tick_requests hS.opened]; exact h.requests, fun o ho => ?_⟩
  obtain ⟨o₀, ho₀, -, rfl⟩ := (mem_tick_snd hS.opened).mp ho
  exact h.signals o₀ ho₀

theorem Below.dismiss (h : s.Below n) (hS : s.Sound) (d : DialogId) : (s.dismiss d).Below n := by
  rw [dismiss_eq hS]
  refine ⟨fun r hr => ?_, fun o ho => h.signals o (List.mem_of_mem_filter ho)⟩
  obtain ⟨r₀, hr₀, rfl⟩ := List.mem_map.mp hr
  -- marking a request dismissed keeps its dialog
  have hid := h.requests r₀ hr₀
  split <;> exact hid

theorem Below.finish {d : DialogId} {e : Event} (h : s.Below n) (hS : s.Sound)
    (hf : s.finish d = some (e, s')) : s'.Below n := by
  obtain ⟨o, -, -, -, rfl⟩ := finish_eq_some hS hf
  exact ⟨h.requests, fun o ho => h.signals o (List.mem_of_mem_filter ho)⟩

theorem Below.create {handle : DialogHandle} {mind : Mind} {width height : Nat} (h : s.Below n)
    (hok : s.create handle mind width height = .ok s') (hid : handle.id.val < n) : s'.Below n := by
  refine ⟨fun r hr => ?_, by rw [create_openDialogs hok]; exact h.signals⟩
  rw [create_eq_ok hok] at hr
  rcases List.mem_append.mp hr with hr | hr
  · exact h.requests r ((trim_spec s _).2.2.2.1.subset hr)
  · rw [List.mem_singleton.mp hr]
    exact hid

theorem Below.place {x y : Int} {handle : DialogHandle} (h : s.Below n) (hS : s.Sound)
    (hok : s.place x y handle = .ok s') (hsig : handle.signal.val < n) : s'.Below n := by
  rw [place_eq_ok hS hok]
  refine ⟨fun r hr => ?_, fun o ho => ?_⟩
  · obtain ⟨r₀, hr₀, rfl⟩ := List.mem_map.mp hr
    have hid := h.requests r₀ hr₀
    split <;> exact hid
  · rcases List.mem_append.mp ho with ho | ho
    · exact h.signals o ho
    · rw [List.mem_singleton.mp ho]
      exact hsig

end Stage

namespace World

variable {w w' : World}

/-- Delivering one event leaves the presentation alone. -/
theorem deliverOne_stage (w : World) (e : Event) : (w.deliverOne e).stage = w.stage := by
  unfold deliverOne
  split
  · exact List.foldlRecOn (motive := fun w' : World => w'.stage = w.stage) _ _ rfl
      fun w' h s _ => (finishSession_stage w' s _).trans h
  · rfl

theorem processEvents_stage (w : World) : w.processEvents.2.stage = w.stage :=
  @deliver_induction (fun w' _ => w'.stage = w.stage)
    (fun _ _ e _ _ h => (deliverOne_stage _ e).trans h) _ w [] rfl

/-- The timeout sweep keeps every property that withdrawing, as timed out, an interaction
tracked at least the timeout keeps. -/
theorem expire_induction_of_mem (P : World → Prop)
    (hstep : ∀ w' id, (∃ entry ∈ w.sessions, entry.1 = id ∧
      ∃ k, w.settings.timeoutTicks = some k ∧ k ≤ w.tick - entry.2.startedAt) →
      P w' → P (w'.withdraw id .timedOut).2)
    (h : P w) : P w.expire.2 := by
  unfold expire
  split
  · exact h
  · rename_i k hk
    refine List.foldlRecOn (motive := fun acc : Bool × World => P acc.2) _ _ h ?_
    intro acc hacc id hid
    obtain ⟨⟨id', t⟩, hmem, rfl⟩ := List.mem_map.mp hid
    obtain ⟨he, hle⟩ := List.mem_filter.mp hmem
    exact hstep acc.2 id' ⟨(id', t), he, rfl, k, hk, by simpa using hle⟩ hacc

/-- The presentation is sound, and every dialog it was asked for, every signal it shows and the
dialog of every tracked interaction was drawn from the supply. -/
structure Drawn (w : World) : Prop where
  sound : w.stage.Sound
  below : w.stage.Below w.supply
  dialogs : ∀ entry ∈ w.sessions, entry.2.dialog.val < w.supply

theorem Drawn.new (screenLength : Nat) (autoFinish : Option Nat)
    (settings : InteractionSettings) :
    (World.new (Stage.new screenLength autoFinish) settings).Drawn :=
  ⟨⟨List.nodup_nil, List.nodup_nil, nofun⟩, ⟨nofun, nofun⟩, nofun⟩

/-- A change that keeps the presentation, drops tracked interactions at most and draws more
keeps everything drawn. -/
theorem Drawn.congr (h : w.Drawn) (hst : w'.stage = w.stage)
    (hs : ∀ entry ∈ w'.sessions, entry ∈ w.sessions) (hsup : w.supply ≤ w'.supply) : w'.Drawn :=
  ⟨hst ▸ h.sound, hst ▸ h.below.mono hsup,
    fun entry he => Nat.lt_of_lt_of_le (h.dialogs entry (hs entry he)) hsup⟩

theorem Drawn.publish (h : w.Drawn) (e : Event) : (w.publish e).Drawn :=
  h.congr rfl (fun _ he => he) (Nat.le_refl _)

theorem Drawn.tickStage (h : w.Drawn) : ({ w with tick := w.tick + 1 }.tickStage).Drawn := by
  rw [tickStage_eq]
  exact ⟨h.sound.tick, h.below.tick h.sound, h.dialogs⟩

theorem Drawn.processEvents (h : w.Drawn) : w.processEvents.2.Drawn := by
  refine h.congr (processEvents_stage w) (fun entry he => ?_) (processEvents_supply w).ge
  rw [processEvents_sessions] at he
  exact List.mem_of_mem_filter he

theorem Drawn.withdraw (h : w.Drawn) (ha : w.Agrees) (id : SessionId) (o : Outcome) :
    (w.withdraw id o).2.Drawn := by
  cases hl : w.sessions.lookup id with
  | none =>
      rw [withdraw_of_lookup_none hl]
      exact h
  | some t =>
      rw [ha.withdraw_eq hl]
      exact ⟨h.sound.dismiss _, h.below.dismiss h.sound _,
        fun entry he => h.dialogs entry (List.mem_of_mem_filter he)⟩

theorem Drawn.expire (h : w.Drawn) (ha : w.Agrees) : w.expire.2.Drawn :=
  (expire_induction (fun w => w.Agrees ∧ w.Drawn)
    (fun _ id hw => ⟨hw.1.withdraw id _, hw.2.withdraw hw.1 id _⟩) ⟨ha, h⟩).2

theorem Drawn.update (h : w.Drawn) (ha : w.Agrees) : w.update.2.Drawn := by
  have ha₁ := ha.tickStage.processEvents
  have h₁ := h.tickStage.processEvents
  rw [update_snd]
  dsimp only
  split
  · exact (h₁.expire ha₁).processEvents
  · exact h₁.expire ha₁

theorem Drawn.finishDialog (h : w.Drawn) (d : DialogId) : (w.finishDialog d).2.Drawn := by
  unfold World.finishDialog
  split
  · rename_i e s' hf
    exact ⟨h.sound.finish hf, h.below.finish h.sound hf, h.dialogs⟩
  · exact h

theorem Drawn.despawn (h : w.Drawn) (e : Entity) : (w.despawn e).2.Drawn := by
  unfold World.despawn
  split
  · exact ⟨h.sound, h.below, h.dialogs⟩
  · exact h

/-- A dialog asked for under the next handle is one the stage was never asked for. -/
theorem Drawn.fresh (h : w.Drawn) : ∀ r ∈ w.stage.requests, r.dialog.id ≠ w.nextHandle.id := by
  intro r hr heq
  have hlt := h.below.requests r hr
  rw [heq] at hlt
  exact Nat.lt_irrefl _ hlt

theorem Drawn.start (h : w.Drawn) (i t : Entity) : (w.start i t).2.Drawn := by
  have hspec := start_spec w i t
  generalize w.start i t = r at hspec
  -- the supply grows by the three identifiers drawn, the dialog's and signal's among them
  have hmono : w.stage.Below (w.supply + 3) := h.below.mono (by omega)
  have hid : w.nextHandle.id.val < w.supply + 3 := by simp [nextHandle]
  have hsig : w.nextHandle.signal.val < w.supply + 3 := by simp [nextHandle]
  cases hspec with
  | refused err _ _ => exact h
  | notCreated mind err _ _ =>
      exact h.congr (by simp) (fun entry he => by simpa using he) (by simp)
  | notPlaced mind stage err _ hcreate _ =>
      have hS := h.sound.create h.fresh hcreate
      have hb := (hmono.create hcreate hid).dismiss hS w.nextHandle.id
      refine ⟨by simpa using hS.dismiss _, by simpa using hb, fun entry he => ?_⟩
      simp only [resumeBoth_sessions, resumeBoth_supply] at he ⊢
      exact Nat.lt_of_lt_of_le (h.dialogs entry (by simpa using he)) (by omega)
  | placed mind stage stage' _ hcreate hplace =>
      have hS := h.sound.create h.fresh hcreate
      have hb := (hmono.create hcreate hid).place hS hplace hsig
      refine ⟨by simpa using hS.place hplace, by simpa using hb, fun entry he => ?_⟩
      simp only [publish_sessions, publish_supply, List.mem_append, List.mem_singleton] at he ⊢
      rcases he with he | rfl
      · exact Nat.lt_of_lt_of_le (h.dialogs entry (by simpa using he)) (by omega)
      · exact hid

/-- A dialog placed at the start of an interaction opens last, with the stage's countdown. -/
theorem Drawn.openDialogs_placed (hd : w.Drawn) {mind : Mind} {stage stage' : Stage}
    (hcreate : w.stage.create w.nextHandle mind w.dialogWidth w.settings.dialogHeight = .ok stage)
    (hplace : stage.place w.settings.dialogX w.settings.dialogY w.nextHandle = .ok stage') :
    stage'.openDialogs = w.stage.openDialogs ++ [⟨w.nextHandle, w.stage.autoFinish⟩] := by
  have hauto : stage.autoFinish = w.stage.autoFinish := by
    rw [Stage.create_eq_ok hcreate]
    exact (Stage.trim_spec _ _).2.1
  rw [Stage.place_eq_ok (hd.sound.create hd.fresh hcreate) hplace,
    Stage.create_openDialogs hcreate, hauto]

/-- A dialog created at the start of an interaction and dismissed again leaves the others
open. -/
theorem Drawn.openDialogs_dismissed (hd : w.Drawn) {mind : Mind} {stage : Stage}
    (hcreate : w.stage.create w.nextHandle mind w.dialogWidth w.settings.dialogHeight = .ok stage) :
    (stage.dismiss w.nextHandle.id).openDialogs =
      w.stage.openDialogs.filter (·.handle.id != w.nextHandle.id) := by
  rw [Stage.dismiss_eq (hd.sound.create hd.fresh hcreate), Stage.create_openDialogs hcreate]

/-- No operation lets an identifier be drawn twice. -/
theorem Drawn.apply (h : w.Drawn) (ha : w.Agrees) (op : Op) : (op.apply w).Drawn := by
  cases op with
  | spawn body => exact h.congr rfl (fun _ he => he) (Nat.le_refl _)
  | perform target action initiator =>
      rcases Participant.performAction_cases target w action initiator with heq | ⟨i, t, -, -, -, heq⟩
      · rw [Op.apply_perform, heq]
        exact h
      · rw [Op.apply_perform, heq]
        exact h.start i t
  | update => exact h.update ha
  | processEvents => exact h.processEvents
  | abandon id => exact h.withdraw ha id .abandoned
  | despawn e => exact h.despawn e
  | destroy p =>
      rw [Op.apply_destroy, Participant.destroy_world]
      split
      · exact h.despawn _
      · exact h
  | finish d => exact h.finishDialog d
  | publishFinished d sig => exact h.publish _
  | publishCustom t d => exact h.publish _
  | publishDespawned e => exact h.publish _

end World

/-! ## Leaving an interaction alone -/

namespace Op

/-- An operation leaves a tracked interaction alone when it neither finishes its dialog, nor
abandons it, nor announces its signal. -/
def Leaves (entry : SessionId × Tracked) : Op → Prop
  | finish d => d ≠ entry.2.dialog
  | abandon id => id ≠ entry.1
  | publishFinished _ signal => signal ≠ entry.2.signal
  | _ => True

/-- The ticks an operation counts: one for an update, none otherwise. -/
def ticks : Op → Nat
  | update => 1
  | _ => 0

end Op

/-- The runs from `w` to `w'` of `n` ticks whose operations leave a tracked interaction alone. -/
inductive Undisturbed (entry : SessionId × Tracked) (w : World) : Nat → World → Prop
  | refl : Undisturbed entry w 0 w
  | step {n : Nat} {w' : World} (op : Op) : Undisturbed entry w n w' → op.Leaves entry →
      Undisturbed entry w (n + op.ticks) (op.apply w')

namespace World

variable {w w' : World} {entry : SessionId × Tracked} {A : Option Nat} {T n : Nat}

/-- A tracked interaction `n` ticks after its start, with its race against the timeout `T` not
over: its dialog is open with the countdown of `A` ticks gone down `n` times, no other open
dialog has its signal, no other tracked interaction has its dialog, both were drawn, and no
finished dialog with its signal is queued. -/
structure Waits (entry : SessionId × Tracked) (A : Option Nat) (T n : Nat) (w : World) :
    Prop where
  tracked : entry ∈ w.sessions
  opened : (⟨⟨entry.2.dialog, entry.2.signal⟩, A.map (· - n)⟩ : OpenDialog) ∈ w.stage.openDialogs
  signal : ∀ o ∈ w.stage.openDialogs, o.handle.signal = entry.2.signal →
    o.handle.id = entry.2.dialog
  dialog : ∀ e ∈ w.sessions, e.2.dialog = entry.2.dialog → e = entry
  drawnDialog : entry.2.dialog.val < w.supply
  drawnSignal : entry.2.signal.val < w.supply
  quiet : ∀ d, .dialogFinished d entry.2.signal ∉ w.bus.queue
  tick : w.tick = entry.2.startedAt + n
  timeout : w.settings.timeoutTicks = some T
  early : n < (raceEnd A T).1

/-- A change that keeps the interaction tracked and its dialog open, adds only open dialogs and
tracked interactions drawn from then on, keeps the tick and the settings and queues no finished
dialog with its signal keeps it waiting. -/
theorem Waits.keep (h : Waits entry A T n w) (hs : entry ∈ w'.sessions)
    (hsess : ∀ e ∈ w'.sessions, e ∈ w.sessions ∨ w.supply ≤ e.2.dialog.val)
    (ho : (⟨⟨entry.2.dialog, entry.2.signal⟩, A.map (· - n)⟩ : OpenDialog) ∈
      w'.stage.openDialogs)
    (hopen : ∀ o ∈ w'.stage.openDialogs,
      o ∈ w.stage.openDialogs ∨ w.supply ≤ o.handle.signal.val)
    (hsup : w.supply ≤ w'.supply) (htick : w'.tick = w.tick) (hset : w'.settings = w.settings)
    (hq : ∀ d, .dialogFinished d entry.2.signal ∉ w'.bus.queue) : Waits entry A T n w' where
  tracked := hs
  opened := ho
  signal o ho' hsig := by
    rcases hopen o ho' with ho' | hle
    · exact h.signal o ho' hsig
    · rw [hsig] at hle
      exact absurd h.drawnSignal (Nat.not_lt.mpr hle)
  dialog e he hdia := by
    rcases hsess e he with he | hle
    · exact h.dialog e he hdia
    · rw [hdia] at hle
      exact absurd h.drawnDialog (Nat.not_lt.mpr hle)
  drawnDialog := Nat.lt_of_lt_of_le h.drawnDialog hsup
  drawnSignal := Nat.lt_of_lt_of_le h.drawnSignal hsup
  quiet := hq
  tick := htick.trans h.tick
  timeout := hset ▸ h.timeout
  early := h.early

theorem Waits.publish (h : Waits entry A T n w) {e : Event}
    (he : ∀ d, e ≠ .dialogFinished d entry.2.signal) : Waits entry A T n (w.publish e) := by
  refine h.keep h.tracked (fun e he => .inl he) h.opened (fun o ho => .inl ho) (Nat.le_refl _)
    rfl rfl fun d hd => ?_
  rw [publish_bus, Bus.publish_queue, List.mem_append, List.mem_singleton] at hd
  rcases hd with hd | hd
  · exact h.quiet d hd
  · exact he d hd.symm

theorem Waits.despawn (h : Waits entry A T n w) (e : Entity) : Waits entry A T n (w.despawn e).2 := by
  unfold World.despawn
  split
  · refine h.keep h.tracked (fun e he => .inl he) h.opened (fun o ho => .inl ho) (Nat.le_refl _)
      rfl rfl fun d hd => ?_
    rw [publish_bus, Bus.publish_queue, List.mem_append, List.mem_singleton] at hd
    rcases hd with hd | hd
    · exact h.quiet d hd
    · cases hd
  · exact h

/-- Withdrawing another interaction dismisses another dialog. -/
theorem Waits.withdraw (h : Waits entry A T n w) (ha : w.Agrees) (hS : w.stage.Sound)
    {id : SessionId} (hid : id ≠ entry.1) (o : Outcome) : Waits entry A T n (w.withdraw id o).2 := by
  cases hl : w.sessions.lookup id with
  | none =>
      rw [withdraw_of_lookup_none hl]
      exact h
  | some t =>
      have hdia : t.dialog ≠ entry.2.dialog := fun heq =>
        hid (congrArg Prod.fst (h.dialog _ (mem_of_lookup hl) heq))
      rw [ha.withdraw_eq hl]
      refine h.keep ?_ (fun e he => .inl (List.mem_of_mem_filter he)) ?_ (fun o ho => ?_)
        (Nat.le_refl _) rfl rfl fun d hd => ?_
      · exact List.mem_filter.mpr ⟨h.tracked, by simpa using hid.symm⟩
      · simp only [finishSession_stage, Stage.dismiss_eq hS]
        exact List.mem_filter.mpr ⟨h.opened, by simpa using hdia.symm⟩
      · simp only [finishSession_stage, Stage.dismiss_eq hS] at ho
        exact .inl (List.mem_of_mem_filter ho)
      · simp only [finishSession_bus, Bus.publish_queue, List.mem_append,
          List.mem_singleton] at hd
        rcases hd with hd | hd
        · exact h.quiet d hd
        · cases hd

/-- Delivering the queue completes other interactions only: this one's signal is not queued. -/
theorem Waits.processEvents (h : Waits entry A T n w) (ha : w.Agrees) :
    Waits entry A T n w.processEvents.2 := by
  obtain ⟨P, hP, -, hr⟩ := ha.processEvents_spec
  have hwait : waiting P entry = true :=
    (hP.waiting_eq_true ha.ids h.tracked).mpr fun ⟨d, hd⟩ => h.quiet d hd
  refine h.keep ?_ (fun e he => ?_) ?_ (fun o ho => ?_) (processEvents_supply w).ge
    (processEvents_tick w) (processEvents_settings w) fun d => ?_
  · rw [hr.sessions]
    exact List.mem_filter.mpr ⟨h.tracked, hwait⟩
  · rw [hr.sessions] at he
    exact .inl (List.mem_of_mem_filter he)
  · rw [processEvents_stage]
    exact h.opened
  · rw [processEvents_stage] at ho
    exact .inl ho
  · rw [processEvents_queue]
    exact List.not_mem_nil

/-- Finishing another dialog announces another signal. -/
theorem Waits.finishDialog (h : Waits entry A T n w) (hS : w.stage.Sound) {d : DialogId}
    (hd : d ≠ entry.2.dialog) : Waits entry A T n (w.finishDialog d).2 := by
  unfold World.finishDialog
  split
  · rename_i e s' hf
    obtain ⟨o, ho, hid, rfl, rfl⟩ := Stage.finish_eq_some hS hf
    have hsig : o.handle.signal ≠ entry.2.signal := fun heq => hd (hid.symm.trans (h.signal o ho heq))
    refine h.keep h.tracked (fun e he => .inl he) ?_ (fun o' ho' => .inl (List.mem_of_mem_filter ho'))
      (Nat.le_refl _) rfl rfl fun d' hd' => ?_
    · exact List.mem_filter.mpr ⟨h.opened, by simpa using hd.symm⟩
    · rw [publish_bus, Bus.publish_queue, List.mem_append, List.mem_singleton] at hd'
      rcases hd' with hd' | hd'
      · exact h.quiet d' hd'
      · simp only [Stage.finished, Event.dialogFinished.injEq] at hd'
        exact hsig hd'.2.symm
  · exact h

/-- Starting another interaction draws its dialog and signal fresh. -/
theorem Waits.start (h : Waits entry A T n w) (hd : w.Drawn) (i t : Entity) :
    Waits entry A T n (w.start i t).2 := by
  have hspec := start_spec w i t
  generalize w.start i t = r at hspec
  -- this interaction's dialog was drawn before the one asked for now
  have hne : entry.2.dialog ≠ w.nextHandle.id := fun heq => by
    have hlt := h.drawnDialog
    rw [heq] at hlt
    exact Nat.lt_irrefl _ hlt
  cases hspec with
  | refused err _ _ => exact h
  | notCreated mind err _ _ =>
      exact h.keep (by simpa using h.tracked) (fun e he => .inl (by simpa using he))
        (by simpa using h.opened) (fun o ho => .inl (by simpa using ho)) (by simp) (by simp)
        (by simp [resumeBoth, setScheduleActive]) (by simpa using h.quiet)
  | notPlaced mind stage err _ hcreate _ =>
      have hopen := hd.openDialogs_dismissed hcreate
      refine h.keep (by simpa using h.tracked) (fun e he => .inl (by simpa using he)) ?_
        (fun o ho => ?_) (by simp) (by simp) (by simp [resumeBoth, setScheduleActive])
        (by simpa using h.quiet)
      · simp only [resumeBoth_stage, hopen]
        exact List.mem_filter.mpr ⟨h.opened, by simpa using hne⟩
      · simp only [resumeBoth_stage, hopen] at ho
        exact .inl (List.mem_of_mem_filter ho)
  | placed mind stage stage' _ hcreate hplace =>
      have hopen := hd.openDialogs_placed hcreate hplace
      refine h.keep ?_ (fun e he => ?_) ?_ (fun o ho => ?_) (by simp) (by simp) (by simp) ?_
      · simp only [publish_sessions]
        exact List.mem_append_left _ h.tracked
      · simp only [publish_sessions, List.mem_append, List.mem_singleton] at he
        rcases he with he | rfl
        · exact .inl he
        · exact .inr (Nat.le_refl _)
      · simp only [publish_stage, hopen]
        exact List.mem_append_left _ h.opened
      · simp only [publish_stage, hopen, List.mem_append, List.mem_singleton] at ho
        rcases ho with ho | rfl
        · exact .inl ho
        · exact .inr (Nat.le_succ _)
      · intro d hd'
        simp only [publish_bus, Bus.publish_queue, Bus.listen_queue, List.mem_append,
          List.mem_singleton] at hd'
        rcases hd' with hd' | hd'
        · exact h.quiet d hd'
        · cases hd'

/-- The one dialog that can announce the interaction's signal is its own, so a tick announces
the signal exactly when the countdown runs out. -/
theorem Waits.finished_tick_iff (h : Waits entry A T n w) (hS : w.stage.Sound) :
    (∃ d, .dialogFinished d entry.2.signal ∈ w.bus.queue ++ w.stage.tick.1) ↔
      ∃ a, A = some a ∧ n + 1 = max a 1 := by
  rw [← @Stage.countDown_expires_iff ⟨⟨entry.2.dialog, entry.2.signal⟩, A.map (· - n)⟩ A n rfl
    (lt_raceEnd_iff.mp h.early).1]
  constructor
  · rintro ⟨d, hd⟩
    rcases List.mem_append.mp hd with hd | hd
    · exact absurd hd (h.quiet d)
    · obtain ⟨o, ho, hz, heq⟩ := (Stage.mem_tick_fst hS.opened).mp hd
      have hsig : o.handle.signal = entry.2.signal := by
        simp only [Stage.finished, Event.dialogFinished.injEq] at heq
        exact heq.2.symm
      -- the open dialog with this signal is this interaction's own
      have hown : o = ⟨⟨entry.2.dialog, entry.2.signal⟩, A.map (· - n)⟩ :=
        List.inj_on_of_nodup_map hS.opened ho h.opened (h.signal o ho hsig)
      rw [hown] at hz
      exact hz
  · intro hz
    exact ⟨entry.2.dialog, List.mem_append_right _
      ((Stage.mem_tick_fst hS.opened).mpr ⟨_, h.opened, hz, rfl⟩)⟩

/-- A tick short of the end of the race counts the countdown down and announces nothing of the
interaction. -/
theorem Waits.tickStage (h : Waits entry A T n w) (hS : w.stage.Sound)
    (hk : n + 1 < (raceEnd A T).1) :
    Waits entry A T (n + 1) { w with tick := w.tick + 1 }.tickStage := by
  have hA := (lt_raceEnd_iff.mp hk).1
  have hnot : ¬∃ a, A = some a ∧ n + 1 = max a 1 := by
    rintro ⟨a, rfl, ha⟩
    have := hA a rfl
    omega
  have hz := (not_congr (@Stage.countDown_expires_iff ⟨⟨entry.2.dialog, entry.2.signal⟩, A.map (· - n)⟩
    A n rfl (lt_raceEnd_iff.mp h.early).1)).mpr hnot
  have hquiet := (not_congr (h.finished_tick_iff hS)).mpr hnot
  have hcount : (⟨⟨entry.2.dialog, entry.2.signal⟩, A.map (· - n)⟩ : OpenDialog).countDown =
      ⟨⟨entry.2.dialog, entry.2.signal⟩, A.map (· - (n + 1))⟩ := by
    cases A <;> simp [OpenDialog.countDown, Nat.sub_sub]
  rw [tickStage_eq]
  refine ⟨h.tracked, ?_, fun o ho hsig => ?_, h.dialog, h.drawnDialog, h.drawnSignal,
    fun d hd => hquiet ⟨d, hd⟩, ?_, h.timeout, hk⟩
  · rw [← hcount]
    exact (Stage.mem_tick_snd hS.opened).mpr ⟨_, h.opened, hz, rfl⟩
  · obtain ⟨o₀, ho₀, -, rfl⟩ := (Stage.mem_tick_snd hS.opened).mp ho
    exact h.signal o₀ ho₀ hsig
  · show w.tick + 1 = entry.2.startedAt + (n + 1)
    rw [h.tick]
    omega

/-- The timeout sweep, short of this interaction's timeout, withdraws others only. -/
theorem Waits.expire (h : Waits entry A T n w) (ha : w.Agrees) (hd : w.Drawn)
    (hyoung : w.tick - entry.2.startedAt < T) : Waits entry A T n w.expire.2 := by
  refine (expire_induction_of_mem (fun w' => w'.Agrees ∧ w'.Drawn ∧ Waits entry A T n w') ?_
    ⟨ha, hd, h⟩).2.2
  rintro w' id ⟨e, he, rfl, k, hk, hle⟩ ⟨ha', hd', h'⟩
  have hne : e.1 ≠ entry.1 := by
    intro heq
    obtain rfl := List.inj_on_of_nodup_map ha.ids he h.tracked heq
    rw [h.timeout, Option.some.injEq] at hk
    omega
  exact ⟨ha'.withdraw _ _, hd'.withdraw ha' _ _, h'.withdraw ha' hd'.sound hne _⟩

/-- A tick short of the end of the race leaves the interaction waiting, one tick older. -/
theorem Waits.update (h : Waits entry A T n w) (ha : w.Agrees) (hd : w.Drawn)
    (hk : n + 1 < (raceEnd A T).1) : Waits entry A T (n + 1) w.update.2 := by
  have hT := (lt_raceEnd_iff.mp hk).2
  have ha₁ := ha.tickStage.processEvents
  have h₁ := (h.tickStage hd.sound hk).processEvents ha.tickStage
  have hexp := h₁.expire ha₁ hd.tickStage.processEvents (by rw [h₁.tick]; omega)
  rw [update_snd]
  dsimp only
  split
  · exact hexp.processEvents (expire_induction World.Agrees (fun _ id hw => hw.withdraw id _) ha₁)
  · exact hexp

/-- The tick that ends the race ends the interaction as the race says. -/
theorem Waits.update_ends (h : Waits entry A T n w) (ha : w.Agrees) (hd : w.Drawn)
    (hk : n + 1 = (raceEnd A T).1) : endingOf entry (raceEnd A T).2 ∈ w.update.1 := by
  obtain ⟨hA, hT⟩ := lt_raceEnd_iff.mp h.early
  by_cases hexp : ∃ a, A = some a ∧ n + 1 = max a 1
  · obtain ⟨a, rfl, ha'⟩ := hexp
    rw [raceEnd_of_expires hT ha']
    exact (ha.completed_mem_update h.tracked ((h.finished_tick_iff hd.sound).mpr ⟨a, rfl, ha'⟩)).1
  · -- the countdown runs on, so it is the timeout that runs out
    have hA' : ∀ a, A = some a → n + 1 < max a 1 := fun a hA'' => by
      have := hA a hA''
      have : n + 1 ≠ max a 1 := fun heq => hexp ⟨a, hA'', heq⟩
      omega
    have hT' : n + 1 = max T 1 := by
      by_contra hne
      have : n + 1 < (raceEnd A T).1 := lt_raceEnd_iff.mpr ⟨hA', by omega⟩
      omega
    rw [raceEnd_of_timeout hA' hT']
    exact (ha.timedOut_mem_update h.timeout h.tracked).mpr
      ⟨by rw [h.tick]; omega, fun hf => hexp ((h.finished_tick_iff hd.sound).mp hf)⟩

/-- An operation that leaves the interaction alone keeps it waiting while its race is not
over. -/
theorem Waits.apply (h : Waits entry A T n w) (ha : w.Agrees) (hd : w.Drawn) {op : Op}
    (hl : op.Leaves entry) (hk : n + op.ticks < (raceEnd A T).1) :
    Waits entry A T (n + op.ticks) (op.apply w) := by
  cases op with
  | update => exact h.update ha hd hk
  | spawn body =>
      exact h.keep h.tracked (fun e he => .inl he) h.opened (fun o ho => .inl ho)
        (Nat.le_refl _) rfl rfl h.quiet
  | perform target action initiator =>
      rcases Participant.performAction_cases target w action initiator with heq | ⟨i, t, -, -, -, heq⟩
      · rw [Op.apply_perform, heq]
        exact h
      · rw [Op.apply_perform, heq]
        exact h.start hd i t
  | processEvents => exact h.processEvents ha
  | abandon id => exact h.withdraw ha hd.sound hl _
  | despawn e => exact h.despawn e
  | destroy p =>
      rw [Op.apply_destroy, Participant.destroy_world]
      split
      · exact h.despawn _
      · exact h
  | finish d => exact h.finishDialog hd.sound hl
  | publishFinished d sig => exact h.publish fun d' heq => hl (Event.dialogFinished.inj heq).2
  | publishCustom t d => exact h.publish fun d' => nofun
  | publishDespawned e => exact h.publish fun d' => nofun

/-- An interaction just started waits, its race not begun: its dialog opens with the stage's
countdown, under a dialog and a signal drawn fresh. -/
theorem Drawn.start_waits (hd : w.Drawn) (hT : w.settings.timeoutTicks = some T) {i t : Entity}
    {s : SessionId} (hok : (w.start i t).1 = .ok s)
    (hq : ∀ d, .dialogFinished d w.nextHandle.signal ∉ w.bus.queue) :
    Waits (w.nextId, w.nextTracked i t) w.stage.autoFinish T 0 (w.start i t).2 := by
  have hspec := start_spec w i t
  generalize w.start i t = r at hspec hok
  cases hspec with
  | refused err _ _ => cases hok
  | notCreated mind err _ _ => cases hok
  | notPlaced mind stage err _ _ _ => cases hok
  | placed mind stage stage' _ hcreate hplace =>
      have hopen := hd.openDialogs_placed hcreate hplace
      refine ⟨by simp, ?_, fun o ho hsig => ?_, fun e he hdia => ?_, by simp [nextTracked, nextHandle],
        by simp [nextTracked, nextHandle], fun d hd' => ?_, by simp [nextTracked], by simpa using hT,
        lt_raceEnd_iff.mpr ⟨fun a _ => by omega, by omega⟩⟩
      · simp only [publish_stage, hopen]
        apply List.mem_append_right
        simp [nextTracked]
      · simp only [publish_stage, hopen, List.mem_append, List.mem_singleton] at ho
        rcases ho with ho | rfl
        · -- the dialogs open before show signals drawn before
          have hlt := hd.below.signals o ho
          rw [hsig] at hlt
          simp [nextTracked, nextHandle] at hlt
        · rfl
      · simp only [publish_sessions, List.mem_append, List.mem_singleton] at he
        rcases he with he | rfl
        · have hlt := hd.dialogs e he
          rw [hdia] at hlt
          simp [nextTracked, nextHandle] at hlt
        · rfl
      · simp only [publish_bus, Bus.publish_queue, Bus.listen_queue, List.mem_append,
          List.mem_singleton] at hd'
        rcases hd' with hd' | hd'
        · exact hq d hd'
        · cases hd'

end World

/-- Along a run that leaves an interaction alone, it waits until its race is over. -/
theorem Undisturbed.waits {entry : SessionId × Tracked} {A : Option Nat} {T n : Nat}
    {w w' : World} (hrun : Undisturbed entry w n w') (h : World.Waits entry A T 0 w)
    (ha : w.Agrees) (hd : w.Drawn) (hn : n < (raceEnd A T).1) :
    World.Waits entry A T n w' ∧ w'.Agrees ∧ w'.Drawn := by
  induction hrun with
  | refl => exact ⟨h, ha, hd⟩
  | step op _ hl ih =>
      obtain ⟨h', ha', hd'⟩ := ih (by omega)
      exact ⟨h'.apply ha' hd' hl hn, ha'.apply op, hd'.apply ha' op⟩

/-- The runs of a script, with the events it was handed, on a world whose presentation starts
new: nothing asked for and nothing open. -/
inductive Booted : World → List Event → Prop
  | new (screenLength : Nat) (autoFinish : Option Nat) (settings : InteractionSettings) :
      Booted (World.new (Stage.new screenLength autoFinish) settings) []
  | step {w : World} {D : List Event} (op : Op) :
      Booted w D → Booted (op.apply w) (D ++ (op.exec w).1.events)

namespace Booted

variable {w : World} {D : List Event}

theorem scripted (h : Booted w D) : Scripted w D := by
  induction h with
  | new screenLength autoFinish settings => exact .new _ _
  | step op _ ih => exact .step op ih

theorem drawn (h : Booted w D) : w.Drawn := by
  induction h with
  | new screenLength autoFinish settings => exact World.Drawn.new screenLength autoFinish settings
  | step op hrun ih => exact ih.apply hrun.scripted.reachable.agrees op

end Booted

/-! ## Timeout against completion -/

/-- With a timeout of `T` ticks, a tick times a tracked interaction out exactly when the new tick
is at least `max T 1` past its start and no finished dialog with its signal was queued before the
tick or announced by the presentation during it; such a finished dialog completes it instead.
After a tick no tracked interaction is as old as the timeout. An interaction started and then
left alone stays tracked until its race is over and ends in the tick `raceEnd` names, the way it
names. Without a timeout no interaction is ever timed out, and no interaction ends two ways. -/
theorem timeout_races_completion {w : World} {D : List Event} (h : Booted w D) :
    (∀ T, w.settings.timeoutTicks = some T →
      (∀ entry ∈ w.sessions,
        (endingOf entry .timedOut ∈ w.update.1 ↔
          entry.2.startedAt + max T 1 ≤ w.tick + 1 ∧
            ¬∃ d, .dialogFinished d entry.2.signal ∈ w.bus.queue ++ w.stage.tick.1) ∧
        ((∃ d, .dialogFinished d entry.2.signal ∈ w.bus.queue ++ w.stage.tick.1) →
          endingOf entry .completed ∈ w.update.1 ∧
            entry.1 ∉ w.update.2.sessions.map (·.1))) ∧
      (∀ entry ∈ w.update.2.sessions, w.update.2.tick - entry.2.startedAt < T) ∧
      ∀ i t s, (w.start i t).1 = .ok s →
        (∀ d, .dialogFinished d w.nextHandle.signal ∉ w.bus.queue) →
        ∀ n w', Undisturbed (w.nextId, w.nextTracked i t) (w.start i t).2 n w' →
          n < (raceEnd w.stage.autoFinish T).1 →
          (w.nextId, w.nextTracked i t) ∈ w'.sessions ∧ w'.tick = w.tick + n ∧
          (n + 1 = (raceEnd w.stage.autoFinish T).1 →
            .interactionEnded w.nextId i t (raceEnd w.stage.autoFinish T).2 ∈ w'.update.1)) ∧
    (w.settings.timeoutTicks = none →
      ∀ s i t, .interactionEnded s i t .timedOut ∉ D ++ w.bus.queue) ∧
    ∀ s i t i' t' o o', .interactionEnded s i t o ∈ D ++ w.bus.queue →
      .interactionEnded s i' t' o' ∈ D ++ w.bus.queue → o = o' := by
  have hs := h.scripted
  have ha := hs.reachable.agrees
  have hd := h.drawn
  refine ⟨fun T hT => ⟨fun entry he => ⟨ha.timedOut_mem_update hT he, ha.completed_mem_update he⟩,
    ha.update_young hT, ?race⟩, hs.not_timedOut, ?once⟩
  case race =>
    intro i t s hok hq n w' hrun hn
    obtain ⟨hw, ha', hd'⟩ := hrun.waits (hd.start_waits hT hok hq) (ha.start i t) (hd.start i t) hn
    exact ⟨hw.tracked, hw.tick, fun hk => hw.update_ends ha' hd' hk⟩
  case once =>
    intro s i t i' t' o o' h₁ h₂
    exact (Event.interactionEnded.inj (hs.chronicle.ending_unique h₁ h₂)).2.2.2

/-- Two characters, with dialogs that finish by themselves after two ticks and interactions that
time out after three. -/
def racers : World :=
  (Op.spawn chatter).apply ((Op.spawn chatter).apply
    (World.new (Stage.new 640 (some 2)) { timeoutTicks := some 3 }))

theorem racers_timeout_races_completion :
    Booted racers [] ∧ (racers.start ⟨0⟩ ⟨1⟩).1 = .ok ⟨2⟩ ∧
    ((∀ T, racers.settings.timeoutTicks = some T →
      (∀ entry ∈ racers.sessions,
        (endingOf entry .timedOut ∈ racers.update.1 ↔
          entry.2.startedAt + max T 1 ≤ racers.tick + 1 ∧
            ¬∃ d, .dialogFinished d entry.2.signal ∈ racers.bus.queue ++ racers.stage.tick.1) ∧
        ((∃ d, .dialogFinished d entry.2.signal ∈ racers.bus.queue ++ racers.stage.tick.1) →
          endingOf entry .completed ∈ racers.update.1 ∧
            entry.1 ∉ racers.update.2.sessions.map (·.1))) ∧
      (∀ entry ∈ racers.update.2.sessions, racers.update.2.tick - entry.2.startedAt < T) ∧
      ∀ i t s, (racers.start i t).1 = .ok s →
        (∀ d, .dialogFinished d racers.nextHandle.signal ∉ racers.bus.queue) →
        ∀ n w', Undisturbed (racers.nextId, racers.nextTracked i t) (racers.start i t).2 n w' →
          n < (raceEnd racers.stage.autoFinish T).1 →
          (racers.nextId, racers.nextTracked i t) ∈ w'.sessions ∧ w'.tick = racers.tick + n ∧
          (n + 1 = (raceEnd racers.stage.autoFinish T).1 →
            .interactionEnded racers.nextId i t (raceEnd racers.stage.autoFinish T).2 ∈
              w'.update.1)) ∧
    (racers.settings.timeoutTicks = none →
      ∀ s i t, .interactionEnded s i t .timedOut ∉ [] ++ racers.bus.queue) ∧
    ∀ s i t i' t' o o', .interactionEnded s i t o ∈ [] ++ racers.bus.queue →
      .interactionEnded s i' t' o' ∈ [] ++ racers.bus.queue → o = o') := by
  have hrun : Booted racers [] := .step (D := []) _ (.step (D := []) _ (.new _ _ _))
  exact ⟨hrun, by decide, timeout_races_completion hrun⟩

end Parley
