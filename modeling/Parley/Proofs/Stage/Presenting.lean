import Parley.Proofs.Stage.Life
import Parley.Proofs.World.Run

/-!
# Presenting dialogs

A presentation is driven by five calls: asking for a conversation, placing a dialog,
dismissing it, finishing it and ticking. What a caller sees of a call is a list of cues: the
dialog handed out, the dialog placed, the dialog dismissed, the tick, and the events announced.
Read for one dialog, the cues are the beats of its life (`Life`), and the stage shows the dialog
as its life says (`Stage.Shows`): no entry before it is asked for, a request waiting to be
placed, an open entry counting down from its placing on, and nothing open once it is over.

Main statement: `presented_dialog_lifecycle`. Over any calls on a fresh presentation, the open
dialogs are distinct and each has its request placed and not dismissed; a dialog is announced
finished at most once, only after it was placed and never after it was dismissed; finishing
succeeds exactly on an open dialog; placing succeeds exactly on a dialog asked for and neither
placed nor dismissed since; and a placed dialog closes by itself at exactly the
`max A 1`-th tick after its placing when the countdown is `some A`, and never when it is `none`.
-/

namespace Parley

open scoped List

/-- A call on the presentation alone. -/
inductive StageCall where
  | create (mind : Mind) (width height : Nat)
  | place (x y : Int) (handle : DialogHandle)
  | dismiss (dialog : DialogId)
  | finish (dialog : DialogId)
  | tick

/-- What a caller sees of a call. -/
inductive Cue where
  | created (dialog : DialogId)
  | placed (dialog : DialogId)
  | dismissed (dialog : DialogId)
  | ticked
  | announced (event : Event)
  deriving DecidableEq

/-- Whether an event announces that the dialog finished. -/
def Event.finishes (d : DialogId) : Event → Bool
  | .dialogFinished d' _ => d' == d
  | _ => false

@[simp] theorem Event.finishes_finished (d : DialogId) (h : DialogHandle) :
    (Stage.finished h).finishes d = (h.id == d) := rfl

namespace Cue

/-- The event a cue announces. -/
def event? : Cue → Option Event
  | announced e => some e
  | _ => none

/-- The beat of a dialog in a cue. -/
def beat (d : DialogId) : Cue → Option Beat
  | created d' => if d' = d then some .created else none
  | placed d' => if d' = d then some .placed else none
  | dismissed d' => if d' = d then some .dismissed else none
  | ticked => some .ticked
  | announced e => if e.finishes d then some .finished else none

end Cue

/-- The beats of a dialog in a list of cues, in order. -/
def story (C : List Cue) (d : DialogId) : List Beat := C.filterMap (Cue.beat d)

theorem story_append (C C' : List Cue) (d : DialogId) :
    story (C ++ C') d = story C d ++ story C' d :=
  List.filterMap_append

theorem filterMap_event?_announced (E : List Event) :
    (E.map Cue.announced).filterMap Cue.event? = E := by
  induction E with
  | nil => rfl
  | cons e E ih => exact congrArg (e :: ·) ih

/-- The announcements that a dialog finished are its finished beats. -/
theorem countP_finishes_eq_count (C : List Cue) (d : DialogId) :
    (C.filterMap Cue.event?).countP (Event.finishes d) = (story C d).count .finished := by
  induction C with
  | nil => rfl
  | cons c C ih =>
      rw [story, List.filterMap_cons] at *
      cases c with
      | announced e =>
          by_cases he : e.finishes d <;> simp [Cue.event?, Cue.beat, he, ih]
      | created d' | placed d' | dismissed d' =>
          by_cases hd : d' = d <;> simp [Cue.event?, Cue.beat, hd, ih]
      | ticked => simp [Cue.event?, Cue.beat, ih]

namespace StageCall

/-- Make the call: the cues it leaves and the world after it. A refused call leaves no cue and
changes nothing. -/
def perform : StageCall → World → List Cue × World
  | create mind width height, w =>
    match w.createConversation mind width height with
    | .ok (handle, w') => ([.created handle.id], w')
    | .error _ => ([], w)
  | place x y handle, w =>
    match w.placeDialog x y handle with
    | .ok w' => ([.placed handle.id], w')
    | .error _ => ([], w)
  | dismiss d, w => ([.dismissed d], w.dismissDialog d)
  | finish d, w =>
    match w.stage.finish d with
    | some (e, _) => ([.announced e], (w.finishDialog d).2)
    | none => ([], w)
  | tick, w => (.ticked :: w.stage.tick.1.map .announced, w.tickStage)

end StageCall

/-- The worlds and cues reached by calls on a fresh presentation. -/
inductive Presented : World → List Cue → Prop
  | new (screenLength : Nat) (autoFinish : Option Nat) (settings : InteractionSettings) :
      Presented (World.new (Stage.new screenLength autoFinish) settings) []
  | perform {w : World} {C : List Cue} (c : StageCall) :
      Presented w C → Presented (c.perform w).2 (C ++ (c.perform w).1)

namespace Stage

/-- How the stage shows a dialog at each point of its life. -/
def Shows (s : Stage) (d : DialogId) : Life → Prop
  | .unborn => (∀ r ∈ s.requests, r.dialog.id ≠ d) ∧ s.isOpen d = false
  | .waiting => (∃ r ∈ s.requests, r.dialog.id = d ∧ r.dismissed = false ∧ r.placedAt = none) ∧
      s.isOpen d = false
  | .shown k =>
      (∃ o ∈ s.openDialogs, o.handle.id = d ∧ o.remaining = s.autoFinish.map (· - k)) ∧
      ∀ A, s.autoFinish = some A → k < max A 1
  | .ended =>
      (∀ r ∈ s.requests, r.dialog.id = d → r.dismissed = true ∨ r.placedAt.isSome) ∧
      s.isOpen d = false

/-- A change of the stage that leaves a dialog alone: the same countdown, the same open entries
of it, no new request of it, and its pending request kept. -/
structure Keeps (d : DialogId) (s s' : Stage) : Prop where
  autoFinish : s'.autoFinish = s.autoFinish
  opened : ∀ o, o.handle.id = d → (o ∈ s'.openDialogs ↔ o ∈ s.openDialogs)
  requests : ∀ r ∈ s'.requests, r.dialog.id = d → r ∈ s.requests
  pending : ∀ r ∈ s.requests, r.dialog.id = d → r.dismissed = false → r.placedAt = none →
    r ∈ s'.requests

variable {s s' : Stage} {d : DialogId} {l : Life}

theorem Keeps.isOpen (h : Keeps d s s') : s'.isOpen d = s.isOpen d := by
  rw [Bool.eq_iff_iff, isOpen_iff, isOpen_iff]
  constructor
  · rintro ⟨o, ho, rfl⟩
    exact ⟨o, (h.opened o rfl).mp ho, rfl⟩
  · rintro ⟨o, ho, rfl⟩
    exact ⟨o, (h.opened o rfl).mpr ho, rfl⟩

theorem Shows.keeps (h : Keeps d s s') (hs : s.Shows d l) : s'.Shows d l := by
  cases l with
  | unborn => exact ⟨fun r hr hid => hs.1 r (h.requests r hr hid) hid, h.isOpen.trans hs.2⟩
  | waiting =>
      obtain ⟨⟨r, hr, hid, hdis, hnone⟩, hopen⟩ := hs
      exact ⟨⟨r, h.pending r hr hid hdis hnone, hid, hdis, hnone⟩, h.isOpen.trans hopen⟩
  | shown k =>
      obtain ⟨⟨o, ho, hid, hrem⟩, hk⟩ := hs
      simp only [Shows, h.autoFinish]
      exact ⟨⟨o, (h.opened o hid).mpr ho, hid, hrem⟩, hk⟩
  | ended => exact ⟨fun r hr hid => hs.1 r (h.requests r hr hid) hid, h.isOpen.trans hs.2⟩

/-- A dialog is open exactly while it is shown. -/
theorem Shows.isOpen_iff (hs : s.Shows d l) : s.isOpen d = true ↔ ∃ k, l = .shown k := by
  cases l with
  | shown k =>
      obtain ⟨⟨o, ho, hid, -⟩, -⟩ := hs
      exact iff_of_true ((Stage.isOpen_iff s d).mpr ⟨o, ho, hid⟩) ⟨k, rfl⟩
  | unborn | waiting | ended => simp [hs.2]

/-- The request of an open dialog is the only one of it, and it is placed. -/
theorem Sound.placed_of_open (hS : s.Sound) {o : OpenDialog} (ho : o ∈ s.openDialogs) :
    ∀ r ∈ s.requests, r.dialog.id = o.handle.id → r.placedAt.isSome := by
  intro r hr hid
  obtain ⟨r', hr', hid', hplaced, -⟩ := hS.placed o ho
  obtain rfl := List.inj_on_of_nodup_map hS.requests hr hr' (hid.trans hid'.symm)
  exact hplaced

/-- A dialog has a request waiting to be placed exactly while it waits. -/
theorem Shows.pending_iff (hS : s.Sound) (hs : s.Shows d l) :
    (∃ r ∈ s.requests, r.dialog.id = d ∧ r.dismissed = false ∧ r.placedAt = none) ↔
      l = .waiting := by
  cases l with
  | waiting => exact iff_of_true hs.1 rfl
  | unborn =>
      refine iff_of_false ?_ (by simp)
      rintro ⟨r, hr, hid, -⟩
      exact hs.1 r hr hid
  | shown k =>
      refine iff_of_false ?_ (by simp)
      rintro ⟨r, hr, hid, -, hnone⟩
      obtain ⟨⟨o, ho, hoid, -⟩, -⟩ := hs
      simpa [hnone] using hS.placed_of_open ho r hr (hid.trans hoid.symm)
  | ended =>
      refine iff_of_false ?_ (by simp)
      rintro ⟨r, hr, hid, hdis, hnone⟩
      simpa [hdis, hnone] using hs.1 r hr hid

/-! ## Asking for a conversation -/

section Create

variable {handle : DialogHandle} {mind : Mind} {width height : Nat}

theorem keeps_create (hok : s.create handle mind width height = .ok s') (hd : d ≠ handle.id) :
    Keeps d s s' := by
  rw [create_eq_ok hok]
  obtain ⟨hopen, hauto, -, hsub, hkeep⟩ := trim_spec s s.requests.length
  refine ⟨hauto, fun o _ => by rw [← hopen], ?_, ?_⟩
  · intro r hr hid
    rcases List.mem_append.mp hr with hr | hr
    · exact hsub.subset hr
    · rw [List.mem_singleton.mp hr] at hid
      exact absurd hid.symm hd
  · -- a pending request is not closed, so the trim keeps it
    intro r hr _ hdis hnone
    exact List.mem_append_left _ (hkeep r hr (by simp [isClosed, hdis, hnone]))

theorem Shows.create (hok : s.create handle mind width height = .ok s')
    (hs : s.Shows handle.id .unborn) : s'.Shows handle.id .waiting := by
  rw [create_eq_ok hok]
  obtain ⟨hopen, -⟩ := trim_spec s s.requests.length
  refine ⟨⟨_, List.mem_append_right _ (List.mem_singleton_self _), rfl, rfl, rfl⟩, ?_⟩
  show (s.trim _).openDialogs.any _ = false
  rw [hopen]
  exact hs.2

end Create

/-! ## Placing -/

section Place

variable {x y : Int} {handle : DialogHandle}

theorem keeps_place (hS : s.Sound) (hok : s.place x y handle = .ok s') (hd : d ≠ handle.id) :
    Keeps d s s' := by
  rw [place_eq hS] at hok
  split at hok
  · cases hok
    refine ⟨rfl, ?_, ?_, ?_⟩
    · intro o hid
      simp only [List.mem_append, List.mem_singleton]
      constructor
      · rintro (ho | rfl)
        · exact ho
        · exact absurd hid.symm hd
      · exact .inl
    · intro r hr hid
      obtain ⟨r₀, hr₀, rfl⟩ := List.mem_map.mp hr
      by_cases h₀ : r₀.dialog.id = handle.id
      · simp only [h₀, if_true] at hid
        exact absurd hid.symm hd
      · simpa [h₀] using hr₀
    · intro r hr hid _ _
      have h₀ : r.dialog.id ≠ handle.id := hid ▸ hd
      exact List.mem_map.mpr ⟨r, hr, by simp [h₀]⟩
  · cases hok

theorem Shows.place (hS : s.Sound) (hok : s.place x y handle = .ok s') :
    s'.Shows handle.id (.shown 0) := by
  rw [place_eq hS] at hok
  split at hok
  · cases hok
    refine ⟨⟨⟨handle, s.autoFinish⟩, List.mem_append_right _ (List.mem_singleton_self _), rfl, ?_⟩,
      fun A _ => by omega⟩
    cases s.autoFinish <;> rfl
  · cases hok

end Place

/-! ## Dismissing and finishing -/

theorem keeps_dismiss (hS : s.Sound) {d₀ : DialogId} (hd : d ≠ d₀) :
    Keeps d s (s.dismiss d₀) := by
  rw [dismiss_eq hS]
  refine ⟨rfl, ?_, ?_, ?_⟩
  · intro o hid
    simp [hid, hd]
  · intro r hr hid
    obtain ⟨r₀, hr₀, rfl⟩ := List.mem_map.mp hr
    by_cases h₀ : r₀.dialog.id = d₀
    · simp only [h₀, if_true] at hid
      exact absurd hid.symm hd
    · simpa [h₀] using hr₀
  · intro r hr hid _ _
    exact List.mem_map.mpr ⟨r, hr, by simp [hid, hd]⟩

/-- Dismissing ends a dialog that was asked for, and leaves alone one that was not. -/
theorem Shows.dismiss (hS : s.Sound) (hs : s.Shows d l) :
    (s.dismiss d).Shows d (if l = .unborn then .unborn else .ended) := by
  have hclosed : (s.dismiss d).isOpen d = false := by
    rw [dismiss_eq hS, Bool.eq_false_iff, ne_eq, Stage.isOpen_iff]
    rintro ⟨o, ho, hid⟩
    simp [hid] at ho
  split
  · subst l
    refine ⟨?_, hclosed⟩
    rw [dismiss_eq hS]
    intro r hr hid
    obtain ⟨r₀, hr₀, rfl⟩ := List.mem_map.mp hr
    by_cases h₀ : r₀.dialog.id = d
    · exact absurd h₀ (hs.1 r₀ hr₀)
    · simp only [h₀, if_false] at hid
  · refine ⟨?_, hclosed⟩
    rw [dismiss_eq hS]
    intro r hr hid
    obtain ⟨r₀, hr₀, rfl⟩ := List.mem_map.mp hr
    by_cases h₀ : r₀.dialog.id = d
    · simp [h₀]
    · simp only [h₀, if_false] at hid

/-- Finishing closes an open dialog and announces it. -/
theorem finish_eq_some (hS : s.Sound) {e : Event} (hf : s.finish d = some (e, s')) :
    ∃ o ∈ s.openDialogs, o.handle.id = d ∧ e = finished o.handle ∧
      s' = { s with openDialogs := s.openDialogs.filter (·.handle.id != d) } := by
  rw [finish_eq hS.opened] at hf
  obtain ⟨o, ho, hp⟩ := Option.map_eq_some_iff.mp hf
  obtain ⟨hmem, hid⟩ := (find?_key_eq_some_iff hS.opened).mp ho
  cases hp
  exact ⟨o, hmem, hid, rfl, rfl⟩

theorem keeps_finish (hS : s.Sound) {d₀ : DialogId} {e : Event} (hf : s.finish d₀ = some (e, s'))
    (hd : d ≠ d₀) : Keeps d s s' := by
  obtain ⟨o, -, -, -, rfl⟩ := finish_eq_some hS hf
  exact ⟨rfl, fun o hid => by simp [hid, hd], fun r hr _ => hr, fun r hr _ _ _ => hr⟩

theorem Shows.finish (hS : s.Sound) {e : Event} (hf : s.finish d = some (e, s')) :
    s'.Shows d .ended := by
  obtain ⟨o, ho, hid, -, rfl⟩ := finish_eq_some hS hf
  refine ⟨fun r hr hrid => .inr (hS.placed_of_open ho r hr (hrid.trans hid.symm)), ?_⟩
  rw [Bool.eq_false_iff, ne_eq, Stage.isOpen_iff]
  rintro ⟨o', ho', hid'⟩
  simp [hid'] at ho'

/-! ## Ticking -/

/-- The beats of a dialog in a list of announcements: a finish for each announcement of it. -/
theorem story_announced (E : List Event) (d : DialogId) :
    story (E.map Cue.announced) d = (E.filter (Event.finishes d)).map fun _ => Beat.finished := by
  induction E with
  | nil => rfl
  | cons e E ih =>
      by_cases he : e.finishes d <;> simp_all [story, Cue.beat]

/-- A tick announces a dialog finished once for each of its entries whose countdown reaches
zero. -/
theorem tick_story (hS : s.Sound) (d : DialogId) :
    story (s.tick.1.map Cue.announced) d =
      ((s.openDialogs.map OpenDialog.countDown).filter
        (fun o => o.handle.id == d && o.remaining == some 0)).map fun _ => Beat.finished := by
  rw [tick_eq hS.opened, story_announced, List.filter_map, List.map_map, List.filter_filter]
  rfl

theorem keeps_tick (hS : s.Sound) (hd : s.isOpen d = false) : Keeps d s s.tick.2 := by
  have hnone : ∀ o ∈ s.openDialogs, o.handle.id ≠ d := by
    intro o ho hid
    rw [← Bool.not_eq_true, Stage.isOpen_iff] at hd
    exact hd ⟨o, ho, hid⟩
  rw [tick_eq hS.opened]
  refine ⟨rfl, ?_, fun r hr _ => hr, fun r hr _ _ _ => hr⟩
  intro o hid
  refine iff_of_false ?_ fun ho => hnone o ho hid
  intro ho
  obtain ⟨o₀, ho₀, rfl⟩ := List.mem_map.mp (List.mem_of_mem_filter ho)
  exact hnone o₀ ho₀ hid

/-- The countdown of a dialog shown for `k` ticks reaches zero at the next tick exactly when
the countdown is `some A` and this is the `max A 1`-th tick. -/
theorem countDown_expires_iff {o : OpenDialog} {A : Option Nat} {k : Nat}
    (hrem : o.remaining = A.map (· - k)) (hk : ∀ a, A = some a → k < max a 1) :
    o.countDown.remaining = some 0 ↔ ∃ a, A = some a ∧ k + 1 = max a 1 := by
  cases A with
  | none => simp [hrem]
  | some a =>
      have := hk a rfl
      simp only [OpenDialog.remaining_countDown, hrem, Option.map_some, Option.some.injEq,
        exists_eq_left']
      omega

/-- A tick takes a shown dialog one tick further, or ends it when its countdown reaches
zero: exactly at the `max A 1`-th tick under a countdown of `some A`. -/
theorem Shows.tick_shown (hS : s.Sound) {k : Nat} (hs : s.Shows d (.shown k)) :
    ∃ l', (Life.shown k).run (.ticked :: story (s.tick.1.map Cue.announced) d) = some l' ∧
      s.tick.2.Shows d l' ∧
      (s.tick.2.isOpen d = false ↔ ∃ A, s.autoFinish = some A ∧ k + 1 = max A 1) := by
  obtain ⟨⟨o, ho, hid, hrem⟩, hk⟩ := hs
  have hexp := countDown_expires_iff hrem hk
  have hcounted : ((s.openDialogs.map OpenDialog.countDown).map (·.handle.id)).Nodup := by
    rw [List.map_map]
    exact hS.opened
  have hmem : o.countDown ∈ s.openDialogs.map OpenDialog.countDown := List.mem_map_of_mem ho
  -- the counted entries of the dialog are the one of `o`
  have hone : (s.openDialogs.map OpenDialog.countDown).filter (·.handle.id == d) = [o.countDown] :=
    filter_key_eq_singleton hcounted hmem hid
  have hstory : story (s.tick.1.map Cue.announced) d =
      if o.countDown.remaining = some 0 then [Beat.finished] else [] := by
    rw [tick_story hS]
    have hfilter : (s.openDialogs.map OpenDialog.countDown).filter
        (fun o => o.handle.id == d && o.remaining == some 0) =
        ([o.countDown].filter (·.remaining == some 0)) := by
      rw [← hone, List.filter_filter]
      congr 1
      funext o'
      exact Bool.and_comm _ _
    rw [hfilter, List.filter_cons, List.filter_nil]
    by_cases hz : o.countDown.remaining = some 0
    · rw [if_pos (beq_iff_eq.mpr hz), if_pos hz]
      rfl
    · rw [if_neg fun h => hz (beq_iff_eq.mp h), if_neg hz]
      rfl
  by_cases hz : o.countDown.remaining = some 0
  · have hshows : s.tick.2.Shows d .ended := by
      rw [tick_eq hS.opened]
      refine ⟨fun r hr hrid => .inr (hS.placed_of_open ho r hr (hrid.trans hid.symm)), ?_⟩
      -- the only counted entry of the dialog reached zero and is dropped
      rw [Bool.eq_false_iff, ne_eq, Stage.isOpen_iff]
      rintro ⟨o', ho', hid'⟩
      obtain ⟨ho', hnz⟩ := List.mem_filter.mp ho'
      have : o' ∈ [o.countDown] := hone ▸ List.mem_filter.mpr ⟨ho', by simp [hid']⟩
      rw [List.mem_singleton.mp this, hz] at hnz
      simp at hnz
    exact ⟨.ended, by rw [hstory, if_pos hz]; rfl, hshows, iff_of_true hshows.2 (hexp.mp hz)⟩
  · have hshows : s.tick.2.Shows d (.shown (k + 1)) := by
      rw [tick_eq hS.opened]
      refine ⟨⟨o.countDown, List.mem_filter.mpr ⟨hmem, bne_iff_ne.mpr hz⟩, by simp [hid], ?_⟩, ?_⟩
      · simp [hrem, Option.map_map, Function.comp_def, Nat.sub_sub]
      · intro a ha
        have ha : s.autoFinish = some a := ha
        have hlt := hk a ha
        have hne : k + 1 ≠ max a 1 := fun h => hz (hexp.mpr ⟨a, ha, h⟩)
        omega
    have hopen := (Shows.isOpen_iff hshows).mpr ⟨k + 1, rfl⟩
    exact ⟨.shown (k + 1), by rw [hstory, if_neg hz]; rfl, hshows,
      iff_of_false (by simp [hopen]) fun h => hz (hexp.mpr h)⟩

/-- Once the tick is counted, a dialog that is not open is not announced. -/
theorem tick_story_of_closed (hS : s.Sound) (hd : s.isOpen d = false) :
    story (s.tick.1.map Cue.announced) d = [] := by
  rw [tick_story hS, List.map_eq_nil_iff, List.filter_eq_nil_iff]
  intro o ho hod
  obtain ⟨o₀, ho₀, rfl⟩ := List.mem_map.mp ho
  have hid : o₀.handle.id = d := by simpa using (Bool.and_eq_true _ _).mp hod |>.1
  rw [← Bool.not_eq_true, Stage.isOpen_iff] at hd
  exact hd ⟨o₀, ho₀, hid⟩

/-- With one open entry per dialog, finishing succeeds exactly on an open dialog. -/
theorem finish_isSome (h : (s.openDialogs.map (·.handle.id)).Nodup) (d : DialogId) :
    (s.finish d).isSome = s.isOpen d := by
  rw [finish_eq h, Option.isSome_map, Bool.eq_iff_iff, List.find?_isSome, Stage.isOpen_iff]
  simp

/-- Placing succeeds exactly on a dialog whose request waits to be placed. -/
theorem place_ok_iff (h : s.Sound) (x y : Int) (handle : DialogHandle) :
    (∃ s', s.place x y handle = .ok s') ↔
      ∃ r ∈ s.requests, r.dialog.id = handle.id ∧ r.dismissed = false ∧ r.placedAt = none := by
  rw [place_eq h]
  split
  · rename_i hp
    exact iff_of_true ⟨_, rfl⟩ hp
  · rename_i hp
    refine iff_of_false ?_ hp
    rintro ⟨_, hs'⟩
    cases hs'

end Stage

namespace World

variable {w w' : World} {mind : Mind} {width height : Nat} {handle : DialogHandle}

/-- Asking the world for a conversation draws the dialog and its signal, in that order. -/
theorem createConversation_eq_ok (h : w.createConversation mind width height = .ok (handle, w')) :
    handle = ⟨⟨w.supply⟩, ⟨w.supply + 1⟩⟩ ∧ ∃ s', w.stage.create handle mind width height = .ok s' ∧
      w' = { w with stage := s', supply := w.supply + 2 } := by
  unfold createConversation mint at h
  dsimp only at h
  cases hc : w.stage.create ⟨⟨w.supply⟩, ⟨w.supply + 1⟩⟩ mind width height with
  | error e =>
      rw [hc] at h
      cases h
  | ok s' =>
      rw [hc] at h
      cases h
      exact ⟨rfl, s', hc, rfl⟩

theorem placeDialog_eq_ok {x y : Int} (h : w.placeDialog x y handle = .ok w') :
    ∃ s', w.stage.place x y handle = .ok s' ∧ w' = { w with stage := s' } := by
  unfold placeDialog at h
  cases hp : w.stage.place x y handle with
  | error e =>
      rw [hp] at h
      cases h
  | ok s' =>
      rw [hp] at h
      cases h
      exact ⟨s', rfl, rfl⟩

theorem placeDialog_ok_iff {x y : Int} :
    (∃ w', w.placeDialog x y handle = .ok w') ↔ ∃ s', w.stage.place x y handle = .ok s' := by
  constructor
  · rintro ⟨w', h⟩
    obtain ⟨s', hs', -⟩ := placeDialog_eq_ok h
    exact ⟨s', hs'⟩
  · rintro ⟨s', hs'⟩
    exact ⟨{ w with stage := s' }, by simp [placeDialog, hs', Except.map]⟩

theorem finishDialog_fst (w : World) (d : DialogId) :
    (w.finishDialog d).1 = (w.stage.finish d).isSome := by
  unfold finishDialog
  cases w.stage.finish d <;> rfl

end World

/-! ## Runs of calls -/

/-- What every run of calls keeps: the stage sound, the announcements queued in order, and each
dialog shown as its beats say, unborn while its identifier is not drawn yet. -/
structure Staged (w : World) (C : List Cue) : Prop where
  sound : w.stage.Sound
  queue : w.bus.queue = C.filterMap Cue.event?
  lives : ∀ d, ∃ l, Life.unborn.run (story C d) = some l ∧ w.stage.Shows d l ∧
    (w.supply ≤ d.val → l = .unborn)

namespace Staged

variable {w w' : World} {C : List Cue}

theorem new (screenLength : Nat) (autoFinish : Option Nat) (settings : InteractionSettings) :
    Staged (World.new (Stage.new screenLength autoFinish) settings) [] where
  sound := ⟨List.nodup_nil, List.nodup_nil, fun _ h => by cases h⟩
  queue := rfl
  lives _ := ⟨.unborn, rfl, And.intro (fun _ h => absurd h List.not_mem_nil) rfl, fun _ => rfl⟩

/-- A call keeps the invariant when it keeps the stage sound, queues what it announces, and
takes each dialog along its beats. -/
theorem step {cs : List Cue} (h : Staged w C) (hS : w'.stage.Sound)
    (hq : w'.bus.queue = w.bus.queue ++ cs.filterMap Cue.event?)
    (hlife : ∀ d l, w.stage.Shows d l → (w.supply ≤ d.val → l = .unborn) →
      ∃ l', l.run (story cs d) = some l' ∧ w'.stage.Shows d l' ∧
        (w'.supply ≤ d.val → l' = .unborn)) :
    Staged w' (C ++ cs) where
  sound := hS
  queue := by rw [hq, h.queue, List.filterMap_append]
  lives d := by
    obtain ⟨l, hl, hs, hfresh⟩ := h.lives d
    obtain ⟨l', hl', hs', hfresh'⟩ := hlife d l hs hfresh
    exact ⟨l', by rw [story_append, Life.run_append, hl]; exact hl', hs', hfresh'⟩

theorem story_single {c : Cue} (d₀ d : DialogId) (b : Beat)
    (hc : ∀ d, c.beat d = if d₀ = d then some b else none) :
    story [c] d = if d₀ = d then [b] else [] := by
  by_cases h : d₀ = d <;> simp [story, hc, h]

theorem created (h : Staged w C) (hc : w.createConversation mind width height = .ok (handle, w')) :
    Staged w' (C ++ [.created handle.id]) := by
  obtain ⟨hhandle, s', hs', rfl⟩ := World.createConversation_eq_ok hc
  -- the dialog drawn is fresh: nothing shows it yet
  obtain ⟨l₀, -, hs₀, hfresh₀⟩ := h.lives handle.id
  have hunborn : w.stage.Shows handle.id .unborn := by
    rw [hfresh₀ (by rw [hhandle])] at hs₀
    exact hs₀
  refine h.step (Stage.Sound.create h.sound hunborn.1 hs') (by simp [Cue.event?]) ?_
  intro d l hs hfresh
  rw [story_single handle.id d .created fun d => rfl]
  by_cases hd : handle.id = d
  · subst hd
    obtain rfl := hfresh (by rw [hhandle])
    refine ⟨.waiting, by simp [Life.next], Stage.Shows.create hs' hunborn, fun hle => ?_⟩
    rw [hhandle] at hle
    exact absurd hle (by simp)
  · refine ⟨l, by simp [hd], Stage.Shows.keeps (Stage.keeps_create hs' (Ne.symm hd)) hs,
      fun hle => hfresh (by simp at hle; omega)⟩

theorem placed {x y : Int} (h : Staged w C) (hp : w.placeDialog x y handle = .ok w') :
    Staged w' (C ++ [.placed handle.id]) := by
  obtain ⟨s', hs', rfl⟩ := World.placeDialog_eq_ok hp
  refine h.step (Stage.Sound.place h.sound hs') (by simp [Cue.event?]) ?_
  intro d l hs hfresh
  rw [story_single handle.id d .placed fun d => rfl]
  by_cases hd : handle.id = d
  · subst hd
    -- only a waiting dialog can be placed
    have hwait : l = .waiting := by
      rw [← Stage.Shows.pending_iff h.sound hs]
      rw [Stage.place_eq h.sound] at hs'
      split at hs'
      · assumption
      · cases hs'
    subst hwait
    exact ⟨.shown 0, by simp [Life.next], Stage.Shows.place h.sound hs',
      fun hle => absurd (hfresh hle) (by simp)⟩
  · exact ⟨l, by simp [hd], Stage.Shows.keeps (Stage.keeps_place h.sound hs' (Ne.symm hd)) hs,
      hfresh⟩

theorem dismissed (h : Staged w C) (d₀ : DialogId) :
    Staged (w.dismissDialog d₀) (C ++ [.dismissed d₀]) := by
  refine h.step (Stage.Sound.dismiss h.sound d₀) (by simp [World.dismissDialog, Cue.event?]) ?_
  intro d l hs hfresh
  rw [story_single d₀ d .dismissed fun d => rfl]
  by_cases hd : d₀ = d
  · subst hd
    refine ⟨if l = .unborn then .unborn else .ended, by simp [Life.dismissed_next],
      Stage.Shows.dismiss h.sound hs, fun hle => ?_⟩
    rw [if_pos (hfresh hle)]
  · exact ⟨l, by simp [hd], Stage.Shows.keeps (Stage.keeps_dismiss h.sound (Ne.symm hd)) hs,
      hfresh⟩

theorem finished {d₀ : DialogId} {e : Event} {s' : Stage} (h : Staged w C)
    (hf : w.stage.finish d₀ = some (e, s')) :
    Staged (w.finishDialog d₀).2 (C ++ [.announced e]) := by
  have hw : (w.finishDialog d₀).2 = { w with stage := s' }.publish e := by
    unfold World.finishDialog
    rw [hf]
  obtain ⟨o, ho, hid, rfl, -⟩ := Stage.finish_eq_some h.sound hf
  rw [hw]
  refine h.step (Stage.Sound.finish h.sound hf) (by simp [Cue.event?]) ?_
  intro d l hs hfresh
  rw [story_single d₀ d .finished fun d => by simp [Cue.beat, hid]]
  by_cases hd : d₀ = d
  · subst hd
    -- the dialog is open, so it is shown
    obtain ⟨k, rfl⟩ := (Stage.Shows.isOpen_iff hs).mp
      ((Stage.isOpen_iff _ _).mpr ⟨o, ho, hid⟩)
    exact ⟨.ended, by simp [Life.next], Stage.Shows.finish h.sound hf,
      fun hle => absurd (hfresh hle) (by simp)⟩
  · exact ⟨l, by simp [hd], Stage.Shows.keeps (Stage.keeps_finish h.sound hf (Ne.symm hd)) hs,
      hfresh⟩

theorem ticked (h : Staged w C) :
    Staged w.tickStage (C ++ (.ticked :: w.stage.tick.1.map .announced)) := by
  rw [World.tickStage_eq]
  refine h.step (Stage.Sound.tick h.sound)
    (congrArg (w.bus.queue ++ ·) (filterMap_event?_announced _).symm) ?_
  intro d l hs hfresh
  show ∃ l', l.run (.ticked :: story (w.stage.tick.1.map Cue.announced) d) = some l' ∧ _
  cases l with
  | shown k =>
      obtain ⟨l', hl', hs', -⟩ := Stage.Shows.tick_shown h.sound hs
      exact ⟨l', hl', hs', fun hle => absurd (hfresh hle) (by simp)⟩
  | unborn | waiting | ended =>
      have hclosed : w.stage.isOpen d = false := by
        simpa using (Stage.Shows.isOpen_iff hs).not.mpr (by simp)
      rw [Stage.tick_story_of_closed h.sound hclosed]
      exact ⟨_, rfl, Stage.Shows.keeps (Stage.keeps_tick h.sound hclosed) hs, hfresh⟩

theorem perform (h : Staged w C) (c : StageCall) : Staged (c.perform w).2 (C ++ (c.perform w).1) := by
  cases c with
  | create mind width height =>
      cases hc : w.createConversation mind width height with
      | ok p =>
          obtain ⟨handle, w'⟩ := p
          simpa [StageCall.perform, hc] using h.created hc
      | error e => simpa [StageCall.perform, hc] using h
  | place x y handle =>
      cases hp : w.placeDialog x y handle with
      | ok w' => simpa [StageCall.perform, hp] using h.placed hp
      | error e => simpa [StageCall.perform, hp] using h
  | dismiss d => exact h.dismissed d
  | finish d =>
      cases hf : w.stage.finish d with
      | some p =>
          obtain ⟨e, s'⟩ := p
          simpa [StageCall.perform, hf] using h.finished hf
      | none => simpa [StageCall.perform, hf] using h
  | tick => exact h.ticked

/-- A dialog is announced finished at most once. -/
theorem countP_finishes_le (h : Staged w C) (d : DialogId) :
    w.bus.queue.countP (Event.finishes d) ≤ 1 := by
  obtain ⟨l, hl, -⟩ := h.lives d
  rw [h.queue, countP_finishes_eq_count]
  exact Life.count_finished_le hl

/-- A dialog finishes only after it was placed. -/
theorem placed_before_finished (h : Staged w C) (d : DialogId)
    (hfin : Beat.finished ∈ story C d) : [Beat.placed, Beat.finished] <+ story C d := by
  obtain ⟨l, hl, -⟩ := h.lives d
  rcases Life.placed_before_finished hl hfin with ⟨k, hk⟩ | hsub
  · cases hk
  · exact hsub

/-- A dialog never finishes after it was asked for and dismissed. -/
theorem not_finished_after_dismissed (h : Staged w C) (d : DialogId) :
    ¬[Beat.created, Beat.dismissed, Beat.finished] <+ story C d := by
  obtain ⟨l, hl, -⟩ := h.lives d
  exact (Life.not_finished_after_dismissed hl).1

theorem finishDialog_fst (h : Staged w C) (d : DialogId) :
    (w.finishDialog d).1 = w.stage.isOpen d := by
  rw [World.finishDialog_fst, Stage.finish_isSome h.sound.opened]

/-- Placing succeeds exactly on a dialog asked for, and neither placed nor dismissed since. -/
theorem place_ok_iff (h : Staged w C) (x y : Int) (handle : DialogHandle) :
    (∃ w', w.placeDialog x y handle = .ok w') ↔
      Beat.created ∈ story C handle.id ∧ Beat.placed ∉ story C handle.id ∧
        ¬[Beat.created, Beat.dismissed] <+ story C handle.id := by
  obtain ⟨l, hl, hs, -⟩ := h.lives handle.id
  rw [World.placeDialog_ok_iff, Stage.place_ok_iff h.sound, Stage.Shows.pending_iff h.sound hs,
    Life.unborn_run_waiting_iff hl]

/-- A dialog placed, and neither dismissed nor finished since, is open, and the next tick closes
it exactly when it is the `max A 1`-th tick since its placing under a countdown of `some A`. -/
theorem closes_iff (h : Staged w C) {d : DialogId} {pre post : List Beat}
    (hstory : story C d = pre ++ Beat.placed :: post) (hdis : Beat.dismissed ∉ post)
    (hfin : Beat.finished ∉ post) :
    w.stage.isOpen d = true ∧ (w.tickStage.stage.isOpen d = false ↔
      ∃ A, w.stage.autoFinish = some A ∧ post.count Beat.ticked + 1 = max A 1) := by
  obtain ⟨l, hl, hs, -⟩ := h.lives d
  rw [hstory] at hl
  obtain rfl := Life.shown_of_placed hl hdis hfin
  obtain ⟨-, -, -, htick⟩ := Stage.Shows.tick_shown h.sound hs
  rw [World.tickStage_eq]
  exact ⟨(Stage.Shows.isOpen_iff hs).mpr ⟨_, rfl⟩, htick⟩

end Staged

theorem Presented.staged {w : World} {C : List Cue} (h : Presented w C) : Staged w C := by
  induction h with
  | new screenLength autoFinish settings => exact Staged.new screenLength autoFinish settings
  | perform c _ ih => exact ih.perform c

/-- Over any calls on a fresh presentation: the open dialogs are distinct, each with its request
placed and not dismissed; the queue holds the announcements in order; a dialog is announced
finished at most once, only after it was placed and never after it was asked for and
dismissed; finishing succeeds exactly on an open dialog; placing succeeds exactly on a dialog
asked for and neither placed nor dismissed since; and a dialog placed and neither dismissed nor
finished since is open, and the next tick closes it exactly when it is the `max A 1`-th tick
since its placing under a countdown of `some A`, never under `none`. -/
theorem presented_dialog_lifecycle {w : World} {C : List Cue} (h : Presented w C) :
    (w.stage.openDialogs.map (·.handle.id)).Nodup ∧
    (∀ o ∈ w.stage.openDialogs, ∃ r ∈ w.stage.requests,
      r.dialog.id = o.handle.id ∧ r.placedAt.isSome ∧ r.dismissed = false) ∧
    w.bus.queue = C.filterMap Cue.event? ∧
    (∀ d, w.bus.queue.countP (Event.finishes d) ≤ 1 ∧
      (Beat.finished ∈ story C d → [Beat.placed, Beat.finished] <+ story C d) ∧
      ¬[Beat.created, Beat.dismissed, Beat.finished] <+ story C d) ∧
    (∀ d, (w.finishDialog d).1 = w.stage.isOpen d) ∧
    (∀ x y (handle : DialogHandle), (∃ w', w.placeDialog x y handle = .ok w') ↔
      Beat.created ∈ story C handle.id ∧ Beat.placed ∉ story C handle.id ∧
        ¬[Beat.created, Beat.dismissed] <+ story C handle.id) ∧
    (∀ d pre post, story C d = pre ++ Beat.placed :: post →
      Beat.dismissed ∉ post → Beat.finished ∉ post →
      w.stage.isOpen d = true ∧ (w.tickStage.stage.isOpen d = false ↔
        ∃ A, w.stage.autoFinish = some A ∧ post.count Beat.ticked + 1 = max A 1)) := by
  have hst := h.staged
  exact ⟨hst.sound.opened, hst.sound.placed, hst.queue,
    fun d => ⟨hst.countP_finishes_le d, hst.placed_before_finished d,
      hst.not_finished_after_dismissed d⟩,
    hst.finishDialog_fst, hst.place_ok_iff, fun _ _ _ => hst.closes_iff⟩

/-- A mind with something to say. -/
def talker : Mind := ⟨"erek", "Erek", "erek_intro", 0, none⟩

/-- A conversation asked for, placed, and ticked once under a countdown of two. -/
theorem countdown_run_lifecycle : ∃ w C, Presented w C ∧
    story C ⟨0⟩ = [Beat.created, Beat.placed, Beat.ticked] ∧
    (w.stage.openDialogs.map (·.handle.id)).Nodup ∧
    (∀ o ∈ w.stage.openDialogs, ∃ r ∈ w.stage.requests,
      r.dialog.id = o.handle.id ∧ r.placedAt.isSome ∧ r.dismissed = false) ∧
    w.bus.queue = C.filterMap Cue.event? ∧
    (∀ d, w.bus.queue.countP (Event.finishes d) ≤ 1 ∧
      (Beat.finished ∈ story C d → [Beat.placed, Beat.finished] <+ story C d) ∧
      ¬[Beat.created, Beat.dismissed, Beat.finished] <+ story C d) ∧
    (∀ d, (w.finishDialog d).1 = w.stage.isOpen d) ∧
    (∀ x y (handle : DialogHandle), (∃ w', w.placeDialog x y handle = .ok w') ↔
      Beat.created ∈ story C handle.id ∧ Beat.placed ∉ story C handle.id ∧
        ¬[Beat.created, Beat.dismissed] <+ story C handle.id) ∧
    (∀ d pre post, story C d = pre ++ Beat.placed :: post →
      Beat.dismissed ∉ post → Beat.finished ∉ post →
      w.stage.isOpen d = true ∧ (w.tickStage.stage.isOpen d = false ↔
        ∃ A, w.stage.autoFinish = some A ∧ post.count Beat.ticked + 1 = max A 1)) := by
  have hrun := Presented.perform .tick (Presented.perform (.place 20 20 ⟨⟨0⟩, ⟨1⟩⟩)
    (Presented.perform (.create talker 10 5) (Presented.new 80 (some 2) {})))
  exact ⟨_, _, hrun, by decide, presented_dialog_lifecycle hrun⟩

end Parley
