import Parley.Proofs.World.Firing

/-!
# The registrations of the bus

The bus keeps its registrations in two maps that point at each other: from a signal to the
sessions waiting for it under their numbers, and from a number to the signal it waits for. Over
every run of registrations, withdrawals, announcements and deliveries (`BusCall`), the maps agree
(`Bus.Consistent`): a number in the signals map is found exactly once in its signal's list, every
number in a list points back at the list's signal, no list is empty, and the numbers are distinct
and below the next one to give. So the number of numbers in the signals map is the number of
registrations, and a number can be taken back exactly when it waits.

Such a run also hands every registration out at most once. Taking a number back hands out the
registration under it, and delivering hands out those whose signal it raises, firing each one's
completion. What was registered is always what was handed out together with what still waits
(`Ledger`).

Main statement: `listeners_handed_out_once`.
-/

namespace Parley

namespace World

/-- Delivering every queued event hands out exactly the registrations whose signal it raises:
they leave the bus, and each fires its completion after the queue. -/
theorem handing_processEvents (w : World) :
    w.processEvents.2.bus.registrations =
        w.bus.registrations.filter (fun r => !raises w.processEvents.1 r.signal) ∧
      w.processEvents.2.bus.nextNumber = w.bus.nextNumber ∧
      w.processEvents.1.Perm (w.bus.queue ++
        (w.bus.registrations.filter fun r => raises w.processEvents.1 r.signal).map
          (·.session.ended .completed)) := by
  have hf := (firing_start w).deliver (w.bus.queue.length + w.bus.registrations.length)
  refine ⟨?_, ?_, ?_⟩
  · rw [processEvents_bus, hf.registrations, processEvents_fst]
    simp only [raises_reverse]
  · rw [processEvents_bus]
    exact nextNumber_deliver w _ []
  · -- the endings delivered raise nothing, so the signals raised are those of the queue
    simp only [processEvents_drained, raises_drained]
    refine List.Perm.append_left _ ?_
    have hperm := (handedOut_perm w.bus.registrations w.bus.queue).map (·.ended .completed)
    rw [List.map_map] at hperm
    exact hperm

end World

/-- A call a script makes on the bus alone. -/
inductive BusCall where
  | listen (signal : Signal) (session : Session)
  | unlisten (number : Nat)
  | publish (event : Event)
  | process

namespace BusCall

/-- The world after a call. Taking a number back changes the bus even when it hands nothing
back, since the number leaves the signals map first. -/
def apply : BusCall → World → World
  | listen signal session, w => { w with bus := (w.bus.listen signal session).2 }
  | unlisten n, w => { w with bus := (w.bus.unlisten n).2 }
  | publish e, w => w.publish e
  | process, w => w.processEvents.2

/-- The registration a call makes. -/
def registers : BusCall → World → List Registration
  | listen signal session, w => [⟨w.bus.nextNumber, signal, session⟩]
  | _, _ => []

/-- The registrations a call hands out: taking a number back hands out the registration under
it, and delivering hands out those whose signal it raises. -/
def handsOut : BusCall → World → List Registration
  | unlisten n, w => (w.bus.registrations.find? (·.number == n)).toList
  | process, w => w.bus.registrations.filter fun r => raises w.processEvents.1 r.signal
  | _, _ => []

/-- While the maps agree, taking a number back hands out the registration under it, whose
session it returns. -/
theorem handsOut_unlisten {w : World} (hc : w.bus.Consistent) {n : Nat} {s : Session}
    (h : (w.bus.unlisten n).1 = some s) :
    ∃ r, (unlisten n).handsOut w = [r] ∧ r.number = n ∧ r.session = s := by
  rw [hc.unlisten_fst, Option.map_eq_some_iff] at h
  obtain ⟨r, hr, rfl⟩ := h
  refine ⟨r, ?_, by simpa using List.find?_some hr, rfl⟩
  show (w.bus.registrations.find? (·.number == n)).toList = [r]
  rw [hr]
  rfl

end BusCall

/-- The runs of a script on a new bus: the world reached, with the registrations made and those
handed out, in order. -/
inductive Wired : World → List Registration → List Registration → Prop
  | new (stage : Stage) (settings : InteractionSettings) : Wired (World.new stage settings) [] []
  | step {w : World} {R H : List Registration} (c : BusCall) :
      Wired w R H → Wired (c.apply w) (R ++ c.registers w) (H ++ c.handsOut w)

/-- The bus's maps agree, and what was registered is what was handed out together with what
still waits, under distinct numbers below the next one to give. -/
structure Ledger (w : World) (R H : List Registration) : Prop where
  consistent : w.bus.Consistent
  perm : R.Perm (H ++ w.bus.registrations)
  nodup : (R.map (·.number)).Nodup
  lt : ∀ r ∈ R, r.number < w.bus.nextNumber

namespace Ledger

variable {w : World} {R H : List Registration}

/-- Nothing is handed out twice, and nothing handed out still waits. -/
theorem handed_nodup (h : Ledger w R H) :
    (H.map (·.number)).Nodup ∧ ∀ r ∈ H, r ∉ w.bus.registrations := by
  have hnd := (h.perm.map (·.number)).nodup_iff.mp h.nodup
  rw [List.map_append] at hnd
  obtain ⟨hH, -, hdis⟩ := List.nodup_append.mp hnd
  refine ⟨hH, fun r hr hw => ?_⟩
  exact hdis _ (List.mem_map_of_mem hr) _ (List.mem_map_of_mem hw) rfl

theorem listen (h : Ledger w R H) (signal : Signal) (session : Session) :
    Ledger ((BusCall.listen signal session).apply w)
      (R ++ (BusCall.listen signal session).registers w)
      (H ++ (BusCall.listen signal session).handsOut w) where
  consistent := h.consistent.listen signal session
  perm := by
    simp only [BusCall.apply, BusCall.registers, BusCall.handsOut, List.append_nil]
    refine (h.perm.append_right _).trans ?_
    rw [List.append_assoc]
    exact ((w.bus.listen_registrations_perm signal session).symm).append_left _
  nodup := by
    simp only [BusCall.registers]
    rw [List.map_append, List.map_singleton, ← List.concat_eq_append]
    refine h.nodup.concat fun hmem => ?_
    obtain ⟨r, hr, heq⟩ := List.mem_map.mp hmem
    exact Nat.ne_of_lt (h.lt r hr) heq
  lt r hr := by
    simp only [BusCall.registers, List.mem_append, List.mem_singleton] at hr
    simp only [BusCall.apply, Bus.listen_nextNumber]
    rcases hr with hr | rfl
    · exact Nat.lt_succ_of_lt (h.lt r hr)
    · exact Nat.lt_succ_self _

theorem unlisten (h : Ledger w R H) (n : Nat) :
    Ledger ((BusCall.unlisten n).apply w) (R ++ (BusCall.unlisten n).registers w)
      (H ++ (BusCall.unlisten n).handsOut w) := by
  simp only [BusCall.registers, List.append_nil]
  refine ⟨h.consistent.unlisten n, ?_, h.nodup, fun r hr => ?_⟩
  · cases hu : (w.bus.unlisten n).1 with
    | none =>
        -- nothing handed back: the number had no registration, and none leaves
        have hfind : w.bus.registrations.find? (·.number == n) = none := by
          have hfst := h.consistent.unlisten_fst n
          rw [hu, eq_comm, Option.map_eq_none_iff] at hfst
          exact hfst
        simp only [BusCall.apply, BusCall.handsOut, hfind, Option.toList_none, List.append_nil]
        rw [Bus.unlisten_registrations_of_fst_eq_none hu]
        exact h.perm
    | some s =>
        obtain ⟨r, hout, hn, hs⟩ := BusCall.handsOut_unlisten h.consistent hu
        obtain ⟨sig, -, hperm⟩ := Bus.unlisten_registrations_of_fst_eq_some hu
        -- the registration handed out is the one that left: numbers are distinct
        have hr : r ∈ w.bus.registrations := by
          have hmem : r ∈ (BusCall.unlisten n).handsOut w := by
            rw [hout]
            exact List.mem_singleton_self r
          exact List.mem_of_find?_eq_some (Option.mem_toList.mp hmem)
        have hsame : r = ⟨n, sig, s⟩ := List.inj_on_of_nodup_map h.consistent.nodup hr
          (hperm.mem_iff.mpr List.mem_cons_self) hn
        simp only [BusCall.apply]
        rw [hout, hsame, List.append_assoc, List.singleton_append]
        exact h.perm.trans (hperm.append_left _)
  · exact Nat.lt_of_lt_of_le (h.lt r hr) (Nat.le_of_eq (Bus.unlisten_nextNumber _ _).symm)

theorem publish (h : Ledger w R H) (e : Event) :
    Ledger ((BusCall.publish e).apply w) (R ++ (BusCall.publish e).registers w)
      (H ++ (BusCall.publish e).handsOut w) := by
  simp only [BusCall.apply, BusCall.registers, BusCall.handsOut, List.append_nil]
  exact ⟨h.consistent.congr rfl rfl (Nat.le_refl _), h.perm, h.nodup, h.lt⟩

theorem process (h : Ledger w R H) :
    Ledger (BusCall.process.apply w) (R ++ BusCall.process.registers w)
      (H ++ BusCall.process.handsOut w) := by
  obtain ⟨hreg, hnext, -⟩ := World.handing_processEvents w
  simp only [BusCall.apply, BusCall.registers, BusCall.handsOut, List.append_nil]
  refine ⟨World.consistent_processEvents h.consistent, ?_, h.nodup, fun r hr => hnext ▸ h.lt r hr⟩
  rw [hreg, List.append_assoc]
  exact h.perm.trans ((List.filter_append_perm _ _).symm.append_left _)

theorem apply (h : Ledger w R H) : ∀ c : BusCall,
    Ledger (c.apply w) (R ++ c.registers w) (H ++ c.handsOut w)
  | .listen signal session => h.listen signal session
  | .unlisten n => h.unlisten n
  | .publish e => h.publish e
  | .process => h.process

end Ledger

theorem Wired.ledger {w : World} {R H : List Registration} (h : Wired w R H) : Ledger w R H := by
  induction h with
  | new stage settings =>
      exact ⟨Bus.consistent_empty, List.Perm.refl _, List.nodup_nil, fun r hr => absurd hr List.not_mem_nil⟩
  | step c _ ih => exact ih.apply c

/-- Over every run of registrations, withdrawals, announcements and deliveries on a new bus:
* the two maps agree: a number in the signals map is found exactly once in its signal's list,
  every number in a list points back at the list's signal, no list is empty, and the numbers are
  distinct and below the next one to give;
* the signals map has as many numbers as there are registrations;
* taking a number back hands something back exactly when the number waits, and afterwards it no
  longer waits;
* every registration made is either handed out or still waiting, never both, and none is handed
  out twice; taking a number back hands out the registration under it, and delivering hands out
  exactly those whose signal it raises, each firing its completion once. -/
theorem listeners_handed_out_once {w : World} {R H : List Registration} (h : Wired w R H) :
    ((∀ n sig, w.bus.signals.lookup n = some sig →
        ∃ regs, w.bus.listeners.lookup sig = some regs ∧ (regs.filter (·.1 == n)).length = 1) ∧
      (∀ sig regs, w.bus.listeners.lookup sig = some regs →
        ∀ p ∈ regs, w.bus.signals.lookup p.1 = some sig) ∧
      (∀ sig regs, w.bus.listeners.lookup sig = some regs → regs ≠ []) ∧
      (w.bus.registrations.map (·.number)).Nodup ∧
      (∀ r ∈ w.bus.registrations, r.number < w.bus.nextNumber)) ∧
    w.bus.listenerCount = w.bus.registrations.length ∧
    (∀ n, (w.bus.unlisten n).1.isSome = w.bus.isListening n ∧
      (w.bus.unlisten n).2.isListening n = false) ∧
    (R.Perm (H ++ w.bus.registrations) ∧ (H.map (·.number)).Nodup ∧
      (∀ r ∈ H, r ∉ w.bus.registrations) ∧
      (∀ n s, (w.bus.unlisten n).1 = some s →
        ∃ r, (BusCall.unlisten n).handsOut w = [r] ∧ r.number = n ∧ r.session = s) ∧
      (BusCall.process.apply w).bus.registrations =
        w.bus.registrations.filter (· ∉ BusCall.process.handsOut w) ∧
      w.processEvents.1.Perm
        (w.bus.queue ++ (BusCall.process.handsOut w).map (·.session.ended .completed))) := by
  have hl := h.ledger
  have hc := hl.consistent
  obtain ⟨hreg, -, hfired⟩ := World.handing_processEvents w
  refine ⟨⟨fun n sig hs => hc.listed_once hs, fun sig regs hr p hp => hc.points_back hr hp,
    fun sig regs hr => hc.list_ne_nil hr, hc.nodup, hc.lt⟩, hc.listenerCount_eq,
    fun n => ⟨hc.unlisten_fst_isSome n, Bus.isListening_unlisten w.bus n⟩,
    hl.perm, hl.handed_nodup.1, hl.handed_nodup.2,
    fun n s hu => BusCall.handsOut_unlisten hc hu, ?_, hfired⟩
  -- a registration stays exactly when it is not handed out
  simp only [BusCall.apply, BusCall.handsOut, hreg]
  apply List.filter_congr
  intro r hr
  simp [hr]

/-- Two sessions registered for one signal, then a finished dialog with that signal
announced and delivered, and the second number taken back while it waits. -/
def wiredRun : World :=
  (BusCall.unlisten 1).apply (BusCall.process.apply
    ((BusCall.publish (.dialogFinished ⟨11⟩ ⟨12⟩)).apply
      ((BusCall.listen ⟨22⟩ ⟨⟨20⟩, ⟨1⟩, ⟨0⟩, ⟨⟨21⟩, ⟨22⟩⟩⟩).apply
        ((BusCall.listen ⟨12⟩ ⟨⟨10⟩, ⟨0⟩, ⟨1⟩, ⟨⟨11⟩, ⟨12⟩⟩⟩).apply
          (World.new (Stage.new 640 none) {})))))

theorem wired_run_hands_out_once :
    ∃ R H, Wired wiredRun R H ∧
      (((∀ n sig, wiredRun.bus.signals.lookup n = some sig →
          ∃ regs, wiredRun.bus.listeners.lookup sig = some regs ∧
            (regs.filter (·.1 == n)).length = 1) ∧
        (∀ sig regs, wiredRun.bus.listeners.lookup sig = some regs →
          ∀ p ∈ regs, wiredRun.bus.signals.lookup p.1 = some sig) ∧
        (∀ sig regs, wiredRun.bus.listeners.lookup sig = some regs → regs ≠ []) ∧
        (wiredRun.bus.registrations.map (·.number)).Nodup ∧
        (∀ r ∈ wiredRun.bus.registrations, r.number < wiredRun.bus.nextNumber)) ∧
      wiredRun.bus.listenerCount = wiredRun.bus.registrations.length ∧
      (∀ n, (wiredRun.bus.unlisten n).1.isSome = wiredRun.bus.isListening n ∧
        (wiredRun.bus.unlisten n).2.isListening n = false) ∧
      (R.Perm (H ++ wiredRun.bus.registrations) ∧ (H.map (·.number)).Nodup ∧
        (∀ r ∈ H, r ∉ wiredRun.bus.registrations) ∧
        (∀ n s, (wiredRun.bus.unlisten n).1 = some s →
          ∃ r, (BusCall.unlisten n).handsOut wiredRun = [r] ∧ r.number = n ∧ r.session = s) ∧
        (BusCall.process.apply wiredRun).bus.registrations =
          wiredRun.bus.registrations.filter (· ∉ BusCall.process.handsOut wiredRun) ∧
        wiredRun.processEvents.1.Perm (wiredRun.bus.queue ++
          (BusCall.process.handsOut wiredRun).map (·.session.ended .completed)))) := by
  have hrun := Wired.step (BusCall.unlisten 1) (Wired.step BusCall.process
    (Wired.step (BusCall.publish (.dialogFinished ⟨11⟩ ⟨12⟩))
      (Wired.step (BusCall.listen ⟨22⟩ ⟨⟨20⟩, ⟨1⟩, ⟨0⟩, ⟨⟨21⟩, ⟨22⟩⟩⟩)
        (Wired.step (BusCall.listen ⟨12⟩ ⟨⟨10⟩, ⟨0⟩, ⟨1⟩, ⟨⟨11⟩, ⟨12⟩⟩⟩)
          (Wired.new (Stage.new 640 none) {})))))
  exact ⟨_, _, hrun, listeners_handed_out_once hrun⟩

end Parley
