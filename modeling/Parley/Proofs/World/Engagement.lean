import Parley.Proofs.World.Admission

/-!
# What a conversation that starts does

When a normal action starts a conversation, the world changes in these ways and no other. Each
party's schedule is suspended once per party the entity is, the initiator stops walking and the
target turns toward the initiator when both stand somewhere apart (`Body.engaged`). One
registration waits for the new dialog's completion signal, the table tracks the new session from
the current tick, its start is queued, and the dialog is requested for the target's mind with the
configured size, placed where the settings say and opened with the stage's countdown. Three
identifiers are drawn: the dialog, its signal and the session.

Two things differ from a plain count. A pause counter at the largest 16-bit count refuses the
suspension, so a counter rises by one per party only up to that count. And the history of
requests makes room before the new request is added: while it holds `Stage.maxRequests` or more,
its oldest closed request is dropped.

Main statement: `conversation_start_effect`; `saturated_start_keeps_counter` is a start at the
largest count.
-/

namespace Parley

namespace World

variable {w : World}

/-- Two worlds with the same entities have the same bodies. -/
theorem body?_congr {w' : World} (he : w'.entities = w.entities) (e : Entity) :
    w'.body? e = w.body? e := by
  unfold body?
  rw [he]

/-- Engaging touches only the entities. -/
theorem engage_eq (w : World) (i t : Entity) :
    w.engage i t = { w with entities := (w.engage i t).entities } := by
  have hb := engage_bus w i t
  have hs := engage_stage w i t
  have hset := engage_settings w i t
  have hses := engage_sessions w i t
  have htick := engage_tick w i t
  have hsup := engage_supply w i t
  generalize w.engage i t = w' at *
  cases w'
  cases w
  simp_all

end World

namespace Stage

variable {s : Stage}

/-- Making room in the history touches only the requests. -/
theorem trim_eq (s : Stage) (fuel : Nat) :
    s.trim fuel = { s with requests := (s.trim fuel).requests } := by
  obtain ⟨hopen, hauto, hscreen, -, -⟩ := trim_spec s fuel
  generalize s.trim fuel = s' at *
  cases s'
  cases s
  simp_all

/-- A history with room keeps every request. -/
theorem trim_of_lt (h : s.requests.length < maxRequests) (fuel : Nat) : s.trim fuel = s := by
  cases fuel with
  | zero => rfl
  | succ fuel => simp [trim, h]

end Stage

namespace World

variable {w : World}

/-- A dialog created and placed at the start of an interaction leaves the history made room in,
followed by its request placed, and opens last with the stage's countdown. -/
theorem Drawn.placed_stage (hd : w.Drawn) {mind : Mind} {width height : Nat}
    {stage stage' : Stage} {x y : Int}
    (hc : w.stage.create w.nextHandle mind width height = .ok stage)
    (hp : stage.place x y w.nextHandle = .ok stage') :
    stage' = { w.stage with
      requests := (w.stage.trim w.stage.requests.length).requests ++
        [⟨w.nextHandle, mind, width, height, some (x, y), false⟩]
      openDialogs := w.stage.openDialogs ++ [⟨w.nextHandle, w.stage.autoFinish⟩] } := by
  obtain ⟨hopen, hauto, -, hsub, -⟩ := Stage.trim_spec w.stage w.stage.requests.length
  -- no request kept from before has the new dialog
  have hkept : ∀ r ∈ (w.stage.trim w.stage.requests.length).requests,
      ¬r.dialog.id = w.nextHandle.id := fun r hr => hd.fresh r (hsub.subset hr)
  rw [Stage.place_eq_ok (hd.sound.create hd.fresh hc) hp, Stage.create_eq_ok hc]
  simp only [List.map_append, List.map_singleton, ite_true, List.map_congr_left
    (fun r hr => if_neg (hkept r hr)), List.map_id', hopen, hauto]
  rw [Stage.trim_eq w.stage w.stage.requests.length]

/-- The world a start that placed its dialog leaves: the bodies engaged, the session registered
in both maps of the bus and its start queued, the dialog's stage, the session tracked and three
identifiers drawn. -/
theorem started_eq (w : World) (i t : Entity) (stage : Stage) :
    ({ w.engage i t with
        supply := w.supply + 3
        stage := stage
        bus := (w.bus.listen w.nextHandle.signal (w.nextSession i t)).2
        sessions := w.sessions ++ [(w.nextId, w.nextTracked i t)] } : World).publish
      (.interactionStarted w.nextId i t w.nextHandle.id) = { w with
      entities := (w.engage i t).entities
      bus := { w.bus with
        queue := w.bus.queue ++ [.interactionStarted w.nextId i t w.nextHandle.id]
        listeners := w.bus.listeners.insert w.nextHandle.signal
          ((w.bus.listeners.lookup w.nextHandle.signal).getD [] ++
            [(w.bus.nextNumber, w.nextSession i t)])
        signals := w.bus.signals.insert w.bus.nextNumber w.nextHandle.signal
        nextNumber := w.bus.nextNumber + 1 }
      stage := stage
      sessions := w.sessions ++ [(w.nextId, w.nextTracked i t)]
      supply := w.supply + 3 } := by
  rw [engage_eq w i t]
  rfl

end World

/-- A normal action that succeeds was between bound characters. -/
theorem Participant.bound_of_performAction_ok {target initiator target' : Participant}
    {action : ActionKind} {w : World} (hk : action.code = 0)
    (h : (target.performAction w action initiator).1 = .ok target') :
    ∃ i t, initiator.entity = some i ∧ target.entity = some t := by
  unfold Participant.performAction Interaction.ofAction? at h
  simp only [hk, if_true] at h
  cases hi : initiator.entity with
  | none => simp [hi] at h
  | some i =>
      cases ht : target.entity with
      | none => simp [hi, ht] at h
      | some t => exact ⟨i, t, rfl, rfl⟩

/-- In a world a script reaches from a new presentation, no tracked session has the identifier
the next session will get. -/
theorem Booted.nextId_untracked {w : World} {D : List Event} (hw : Booted w D) :
    ∀ entry ∈ w.sessions, entry.1 ≠ w.nextId := by
  intro entry he heq
  -- a tracked session was started, and every started identifier was drawn before
  have hc := hw.scripted.chronicle
  have hstarted := ((hc.tracked entry.1).mp (List.mem_map_of_mem he)).1
  have hlt := hc.drawn entry.1 hstarted
  rw [heq] at hlt
  simp [World.nextId] at hlt

/-- A normal action that succeeds in a world a script reaches from a new presentation starts a
conversation between the bound initiator `i` and target `t`, who has a mind. The target remembers
the session, whose identifier no tracked session has. The world changes only as follows: the
bodies are engaged; the session is registered under the next number for the dialog's signal, for
which nothing waited before, so the listeners map gains that signal's list of one and the signals
map the number, and the registrations gain exactly that one at the end; the queue gains the start;
the history makes room and gains the dialog's request, placed, and the dialog opens; the table
tracks the session from the current tick; and three identifiers are drawn. Each pause counter
rises by one per party, up to the largest 16-bit count, and a history with room keeps every
request. -/
theorem conversation_start_effect {w : World} {D : List Event} (hw : Booted w D)
    {target initiator target' : Participant} {action : ActionKind} (hk : action.code = 0)
    (h : (target.performAction w action initiator).1 = .ok target') :
    ∃ i t mind, initiator.entity = some i ∧ target.entity = some t ∧
      w.mindOf t = some mind ∧ target' = { target with interaction := some w.nextId } ∧
      (∀ entry ∈ w.sessions, entry.1 ≠ w.nextId) ∧
      (target.performAction w action initiator).2 = { w with
        entities := (w.engage i t).entities
        bus := { w.bus with
          queue := w.bus.queue ++ [.interactionStarted w.nextId i t w.nextHandle.id]
          listeners := w.bus.listeners.insert w.nextHandle.signal
            [(w.bus.nextNumber, w.nextSession i t)]
          signals := w.bus.signals.insert w.bus.nextNumber w.nextHandle.signal
          nextNumber := w.bus.nextNumber + 1 }
        stage := { w.stage with
          requests := (w.stage.trim w.stage.requests.length).requests ++
            [⟨w.nextHandle, mind, w.dialogWidth, w.settings.dialogHeight,
              some (w.settings.dialogX, w.settings.dialogY), false⟩]
          openDialogs := w.stage.openDialogs ++ [⟨w.nextHandle, w.stage.autoFinish⟩] }
        sessions := w.sessions ++ [(w.nextId, w.nextTracked i t)]
        supply := w.supply + 3 } ∧
      w.bus.listeners.lookup w.nextHandle.signal = none ∧
      (target.performAction w action initiator).2.bus.registrations = w.bus.registrations ++
        [⟨w.bus.nextNumber, w.nextHandle.signal, w.nextSession i t⟩] ∧
      (∀ e, (target.performAction w action initiator).2.body? e = (w.body? e).map fun b =>
        b.engaged (World.roles e i t) (decide (e = i)) (if e = t then w.facing t i else none)) ∧
      (∀ e, ((target.performAction w action initiator).2.scheduleOf e).map (·.paused.toNat) =
        (w.scheduleOf e).map fun s => min (s.paused.toNat + World.roles e i t) 65535) ∧
      (w.stage.requests.length < Stage.maxRequests →
        (w.stage.trim w.stage.requests.length).requests = w.stage.requests) := by
  have hd := hw.drawn
  -- nothing waits for the signal the new dialog draws
  have hnone := hw.scripted.reachable.agrees.lookup_nextSignal
  obtain ⟨i, t, hi, ht⟩ := Participant.bound_of_performAction_ok hk h
  rw [Participant.performAction_fst_of_bound hk hi ht] at h
  rw [World.performAction_of_bound hk hi ht]
  have hspec := World.start_spec w i t
  generalize w.start i t = r at hspec h ⊢
  cases hspec with
  | refused err _ _ => cases h
  | notCreated _ _ _ _ => cases h
  | notPlaced _ _ _ _ _ _ => cases h
  | placed mind stage stage' hA hc hp =>
      cases h
      dsimp only
      rw [World.started_eq, hd.placed_stage hc hp, hnone, Option.getD_none, List.nil_append]
      refine ⟨i, t, mind, hi, ht, World.mindOf_of_admits hA, rfl, hw.nextId_untracked, rfl,
        rfl, ?registrations, fun e => ?bodies, fun e => ?counters,
        fun hlt => by rw [Stage.trim_of_lt hlt]⟩
      case registrations =>
        rw [Bus.registrations_of_listeners_eq_insert (b := w.bus) rfl,
          Bus.filter_signal_ne_of_lookup_eq_none hnone]
        rfl
      case bodies =>
        rw [World.body?_congr (w := w.engage i t), World.body?_engage]
        rfl
      case counters =>
        rw [World.scheduleOf_congr (w := w.engage i t), World.scheduleOf_engage, Option.map_map]
        · congr 1
          funext s
          exact Schedule.paused_repeat_suspend _ s
        · rfl

/-- A walker heading east from the origin, keeping a schedule. -/
def walker : Body where
  position := some ⟨Binary32.zero, Binary32.zero, Binary32.zero⟩
  motion := some ⟨⟨false, true, false, false⟩, .east⟩
  schedule := some ⟨"wander", 0⟩

/-- A greeter five steps east of the origin, facing north, with something to say. -/
def greeter : Body where
  mind := some ⟨"greeter", "Greeter", "welcome", 0, none⟩
  position := some ⟨Binary32.ofNat 5, Binary32.zero, Binary32.zero⟩
  motion := some ⟨Directions.empty, .north⟩
  schedule := some ⟨"greet", 0⟩

/-- The walker and the greeter on a new stage. -/
def street : World :=
  (Op.spawn greeter).apply ((Op.spawn walker).apply (World.new (Stage.new 640 none) {}))

/-- The handle of the first entity spawned, a visitor. -/
def visitorHandle : Participant := .bound .npc ⟨0⟩

/-- The handle of the second entity spawned, its host. -/
def hostHandle : Participant := .bound .npc ⟨1⟩

theorem street_conversation_start_effect : Booted street [] ∧ ActionKind.normal.code = 0 ∧
    (hostHandle.performAction street .normal visitorHandle).1 =
      .ok { hostHandle with interaction := some ⟨2⟩ } ∧
    ∃ i t mind, visitorHandle.entity = some i ∧ hostHandle.entity = some t ∧
      street.mindOf t = some mind ∧
      { hostHandle with interaction := some ⟨2⟩ } =
        { hostHandle with interaction := some street.nextId } ∧
      (∀ entry ∈ street.sessions, entry.1 ≠ street.nextId) ∧
      (hostHandle.performAction street .normal visitorHandle).2 = { street with
        entities := (street.engage i t).entities
        bus := { street.bus with
          queue := street.bus.queue ++
            [.interactionStarted street.nextId i t street.nextHandle.id]
          listeners := street.bus.listeners.insert street.nextHandle.signal
            [(street.bus.nextNumber, street.nextSession i t)]
          signals := street.bus.signals.insert street.bus.nextNumber street.nextHandle.signal
          nextNumber := street.bus.nextNumber + 1 }
        stage := { street.stage with
          requests := (street.stage.trim street.stage.requests.length).requests ++
            [⟨street.nextHandle, mind, street.dialogWidth, street.settings.dialogHeight,
              some (street.settings.dialogX, street.settings.dialogY), false⟩]
          openDialogs := street.stage.openDialogs ++
            [⟨street.nextHandle, street.stage.autoFinish⟩] }
        sessions := street.sessions ++ [(street.nextId, street.nextTracked i t)]
        supply := street.supply + 3 } ∧
      street.bus.listeners.lookup street.nextHandle.signal = none ∧
      (hostHandle.performAction street .normal visitorHandle).2.bus.registrations =
        street.bus.registrations ++
          [⟨street.bus.nextNumber, street.nextHandle.signal, street.nextSession i t⟩] ∧
      (∀ e, (hostHandle.performAction street .normal visitorHandle).2.body? e =
        (street.body? e).map fun b => b.engaged (World.roles e i t) (decide (e = i))
          (if e = t then street.facing t i else none)) ∧
      (∀ e, ((hostHandle.performAction street .normal visitorHandle).2.scheduleOf e).map
          (·.paused.toNat) =
        (street.scheduleOf e).map fun s => min (s.paused.toNat + World.roles e i t) 65535) ∧
      (street.stage.requests.length < Stage.maxRequests →
        (street.stage.trim street.stage.requests.length).requests = street.stage.requests) := by
  have hrun : Booted street [] := .step (D := []) _ (.step (D := []) _ (.new _ _ _))
  have hok : (hostHandle.performAction street .normal visitorHandle).1 =
      .ok { hostHandle with interaction := some ⟨2⟩ } := by rfl
  exact ⟨hrun, rfl, hok, conversation_start_effect hrun rfl hok⟩

/-- The greeter turns west to face the walker, who would face east. -/
example : (street.facing ⟨1⟩ ⟨0⟩, street.facing ⟨0⟩ ⟨1⟩) = (some .west, some .east) := by
  rfl

/-- A visitor whose schedule is paused as many times as a 16-bit count holds. -/
def weary : Body where
  schedule := some ⟨"wander", 65535⟩

/-- The weary visitor and the greeter on a new stage. -/
def wearyStreet : World :=
  (Op.spawn greeter).apply ((Op.spawn weary).apply (World.new (Stage.new 640 none) {}))

/-- The weary visitor starts a conversation with the greeter, and its pause counter does not rise
by one: it stays at the largest count. -/
theorem saturated_start_keeps_counter :
    (hostHandle.performAction wearyStreet .normal visitorHandle).1 =
        .ok { hostHandle with interaction := some ⟨2⟩ } ∧
      ((hostHandle.performAction wearyStreet .normal visitorHandle).2.scheduleOf ⟨0⟩).map
        (·.paused.toNat) = some 65535 ∧
      ((hostHandle.performAction wearyStreet .normal visitorHandle).2.scheduleOf ⟨0⟩).map
        (·.paused.toNat) ≠ (wearyStreet.scheduleOf ⟨0⟩).map (·.paused.toNat + 1) := by
  have hafter : ((hostHandle.performAction wearyStreet .normal visitorHandle).2.scheduleOf
      ⟨0⟩).map (·.paused.toNat) = some 65535 := by rfl
  have hbefore : (wearyStreet.scheduleOf ⟨0⟩).map (·.paused.toNat + 1) = some 65536 := by rfl
  refine ⟨by rfl, hafter, ?_⟩
  rw [hafter, hbefore]
  decide

end Parley
