import Parley.Proofs.Stage.Dialogs

/-!
# The life of a dialog

Seen from one dialog, every call on the stage is one of five beats: the dialog is asked for,
placed, dismissed or finished, or time passes. A dialog is unborn until it is asked for, then
waits to be placed, is shown from its placing on, counting the ticks, and is over once
dismissed or finished. `Life.next` is that machine, and a beat it refuses is one the stage
never produces.

Read off a run of the machine from `unborn`, the beats tell what became of the dialog: it
finished at most once, only after it was placed and never after it was dismissed; it waits
exactly while it was asked for, not placed and not dismissed since; and once placed, it is
shown for as many ticks as have passed, until it is dismissed or finished.
-/

namespace Parley

open scoped List

/-- What a call on the stage does to one dialog. -/
inductive Beat where
  | created
  | placed
  | dismissed
  | ticked
  | finished
  deriving DecidableEq, Repr

/-- Where a dialog is in its life; a shown dialog counts the ticks since it was placed. -/
inductive Life where
  | unborn
  | waiting
  | shown (ticks : Nat)
  | ended
  deriving DecidableEq, Repr

namespace Life

/-- One beat of a dialog's life, `none` for a beat it cannot take. A dismissal and a tick are
taken at every point: before the dialog exists and after it is over they change nothing. -/
def next : Life → Beat → Option Life
  | unborn, .created => some waiting
  | unborn, .dismissed => some unborn
  | unborn, .ticked => some unborn
  | waiting, .placed => some (shown 0)
  | waiting, .dismissed => some ended
  | waiting, .ticked => some waiting
  | shown k, .ticked => some (shown (k + 1))
  | shown _, .dismissed => some ended
  | shown _, .finished => some ended
  | ended, .dismissed => some ended
  | ended, .ticked => some ended
  | _, _ => none

/-- Take the beats one after another. -/
def run : Life → List Beat → Option Life
  | l, [] => some l
  | l, b :: bs => (l.next b).bind fun l' => l'.run bs

@[simp] theorem run_nil (l : Life) : l.run [] = some l := rfl

@[simp] theorem run_cons (l : Life) (b : Beat) (bs : List Beat) :
    l.run (b :: bs) = (l.next b).bind fun l' => l'.run bs := rfl

theorem run_append (l : Life) (xs ys : List Beat) :
    l.run (xs ++ ys) = (l.run xs).bind fun l' => l'.run ys := by
  induction xs generalizing l with
  | nil => rfl
  | cons b xs ih =>
      simp only [List.cons_append, run_cons, ih, Option.bind_assoc]

theorem run_cons_eq_some {l l' : Life} {b : Beat} {bs : List Beat} (h : l.run (b :: bs) = some l') :
    ∃ m, l.next b = some m ∧ m.run bs = some l' :=
  Option.bind_eq_some_iff.mp h

/-! ## What each beat can do -/

section Steps

variable {l m : Life}

/-- How far along its life a dialog is; no beat goes back. -/
def rank : Life → Nat
  | unborn => 0
  | waiting => 1
  | shown _ => 2
  | ended => 3

theorem rank_le_of_next {b : Beat} (h : l.next b = some m) : l.rank ≤ m.rank := by
  cases l <;> cases b <;> cases h <;> simp [rank]

theorem rank_le_of_run {bs : List Beat} (h : l.run bs = some m) : l.rank ≤ m.rank := by
  induction bs generalizing l with
  | nil => simp_all
  | cons b bs ih =>
      obtain ⟨l', hl', hrun⟩ := run_cons_eq_some h
      exact (rank_le_of_next hl').trans (ih hrun)

theorem dismissed_next (l : Life) :
    l.next .dismissed = some (if l = unborn then unborn else ended) := by
  cases l <;> rfl

/-- Only a placing shows a dialog that was not shown. -/
theorem next_eq_shown {b : Beat} {k : Nat} (h : l.next b = some (shown k)) :
    (l = waiting ∧ b = .placed) ∨ (∃ j, l = shown j ∧ b = .ticked) := by
  cases l <;> cases b <;> cases h <;> simp

/-- A dialog that is over takes nothing but dismissals and ticks, and stays over. -/
theorem next_ended {b : Beat} (h : ended.next b = some m) :
    m = ended ∧ (b = .dismissed ∨ b = .ticked) := by
  cases b <;> cases h <;> simp

theorem next_unborn {b : Beat} (h : l.next b = some unborn) :
    l = unborn ∧ (b = .dismissed ∨ b = .ticked) := by
  cases l <;> cases b <;> cases h <;> simp

theorem run_ended {bs : List Beat} (h : ended.run bs = some m) :
    m = ended ∧ ∀ b ∈ bs, b = .dismissed ∨ b = .ticked := by
  induction bs with
  | nil => simp_all
  | cons b bs ih =>
      obtain ⟨l', hl', hrun⟩ := run_cons_eq_some h
      obtain ⟨rfl, hb⟩ := next_ended hl'
      obtain ⟨rfl, hbs⟩ := ih hrun
      exact ⟨rfl, List.forall_mem_cons.mpr ⟨hb, hbs⟩⟩

end Steps

/-! ## What a run tells -/

/-- How many more times the dialog can finish. -/
def finishesLeft : Life → Nat
  | ended => 0
  | _ => 1

theorem finishesLeft_next {l m : Life} {b : Beat} (h : l.next b = some m) :
    (if b = .finished then 1 else 0) + m.finishesLeft ≤ l.finishesLeft := by
  cases l <;> cases b <;> cases h <;> simp [finishesLeft]

/-- A dialog finishes at most once. -/
theorem count_finished_le {l m : Life} {bs : List Beat} (h : l.run bs = some m) :
    bs.count .finished ≤ l.finishesLeft := by
  induction bs generalizing l with
  | nil => simp
  | cons b bs ih =>
      obtain ⟨l', hl', hrun⟩ := run_cons_eq_some h
      have hstep := finishesLeft_next hl'
      have hrest := ih hrun
      rw [List.count_cons]
      by_cases hb : b = .finished
      · subst hb
        simp only [if_true, beq_self_eq_true] at hstep ⊢
        omega
      · simp only [hb, if_false, beq_iff_eq] at hstep ⊢
        omega

/-- A dialog finishes only once shown, or after it was placed. -/
theorem placed_before_finished {l m : Life} {bs : List Beat} (h : l.run bs = some m)
    (hfin : Beat.finished ∈ bs) : (∃ k, l = shown k) ∨ [Beat.placed, Beat.finished] <+ bs := by
  induction bs generalizing l with
  | nil => simp at hfin
  | cons b bs ih =>
      obtain ⟨l', hl', hrun⟩ := run_cons_eq_some h
      by_cases hb : b = .finished
      · subst hb
        left
        cases l <;> cases hl'
        exact ⟨_, rfl⟩
      · have hfin' : Beat.finished ∈ bs := (List.mem_cons.mp hfin).resolve_left (Ne.symm hb)
        rcases ih hrun hfin' with ⟨k, rfl⟩ | hsub
        · -- `l'` is shown: either `b` placed the dialog, or `l` was already shown
          rcases next_eq_shown hl' with ⟨rfl, rfl⟩ | ⟨j, rfl, rfl⟩
          · exact .inr (List.Sublist.cons_cons _ (List.singleton_sublist.mpr hfin'))
          · exact .inl ⟨j, rfl⟩
        · exact .inr (hsub.cons _)

/-- Once asked for, a dialog never finishes after a dismissal; from the start, it never
finishes after being asked for and then dismissed. -/
theorem not_finished_after_dismissed {l m : Life} {bs : List Beat} (h : l.run bs = some m) :
    ¬[Beat.created, Beat.dismissed, Beat.finished] <+ bs ∧
      (l ≠ unborn → ¬[Beat.dismissed, Beat.finished] <+ bs) := by
  induction bs generalizing l with
  | nil => simp
  | cons b bs ih =>
      obtain ⟨l', hl', hrun⟩ := run_cons_eq_some h
      obtain ⟨ih₁, ih₂⟩ := ih hrun
      constructor
      · intro hsub
        rcases List.sublist_cons_iff.mp hsub with hsub | ⟨r, hr, hsub⟩
        · exact ih₁ hsub
        · -- `b` asked for the dialog, so `l'` is waiting
          obtain ⟨rfl, rfl⟩ := List.cons_eq_cons.mp hr
          cases l <;> cases hl'
          exact ih₂ (by simp) hsub
      · intro hl hsub
        rcases List.sublist_cons_iff.mp hsub with hsub | ⟨r, hr, hsub⟩
        · exact ih₂ (fun hu => hl (next_unborn (hu ▸ hl')).1) hsub
        · -- the dismissal ends the dialog, which then takes no finish
          obtain ⟨rfl, rfl⟩ := List.cons_eq_cons.mp hr
          rw [dismissed_next, if_neg hl, Option.some_inj] at hl'
          subst hl'
          have := (run_ended hrun).2 _ (List.singleton_sublist.mp hsub)
          simp at this

/-- A waiting dialog still waits exactly when it was neither placed nor dismissed. -/
theorem waiting_run_iff {l : Life} {bs : List Beat} (h : waiting.run bs = some l) :
    l = waiting ↔ Beat.placed ∉ bs ∧ Beat.dismissed ∉ bs := by
  induction bs with
  | nil => simp_all
  | cons b bs ih =>
      obtain ⟨l', hl', hrun⟩ := run_cons_eq_some h
      cases b with
      | placed =>
          -- shown dialogs never wait again
          cases hl'
          have := rank_le_of_run hrun
          simp only [List.mem_cons, true_or, not_true_eq_false, false_and, iff_false]
          rintro rfl
          simp [rank] at this
      | dismissed =>
          cases hl'
          rw [(run_ended hrun).1]
          simp
      | ticked =>
          cases hl'
          simpa using ih hrun
      | created | finished => cases hl'

/-- From the start, a dialog waits exactly when it was asked for, and neither placed nor
dismissed since. -/
theorem unborn_run_waiting_iff {l : Life} {bs : List Beat} (h : unborn.run bs = some l) :
    l = waiting ↔ Beat.created ∈ bs ∧ Beat.placed ∉ bs ∧
      ¬[Beat.created, Beat.dismissed] <+ bs := by
  induction bs with
  | nil =>
      simp only [run_nil, Option.some_inj] at h
      subst h
      simp
  | cons b bs ih =>
      obtain ⟨l', hl', hrun⟩ := run_cons_eq_some h
      cases b with
      | created =>
          cases hl'
          rw [waiting_run_iff hrun]
          -- after the request, a dismissal anywhere comes after it
          have hdis : [Beat.created, Beat.dismissed] <+ bs → Beat.dismissed ∈ bs :=
            fun hsub => hsub.subset (by simp)
          simp only [List.mem_cons, true_or, reduceCtorEq, false_or, true_and,
            List.sublist_cons_iff, List.cons.injEq]
          grind
      | dismissed | ticked =>
          cases hl'
          rw [ih hrun]
          simp [List.sublist_cons_iff]
      | placed | finished => cases hl'

/-- A shown dialog that is neither dismissed nor finished stays shown, counting the ticks. -/
theorem shown_run {k : Nat} {l : Life} {bs : List Beat} (h : (shown k).run bs = some l)
    (hdis : Beat.dismissed ∉ bs) (hfin : Beat.finished ∉ bs) :
    l = shown (k + bs.count .ticked) := by
  induction bs generalizing k with
  | nil => simp_all
  | cons b bs ih =>
      obtain ⟨l', hl', hrun⟩ := run_cons_eq_some h
      cases b with
      | ticked =>
          cases hl'
          rw [ih hrun (fun h => hdis (.tail _ h)) (fun h => hfin (.tail _ h)), List.count_cons_self]
          congr 1
          omega
      | dismissed => simp at hdis
      | finished => simp at hfin
      | created | placed => cases hl'

/-- Placed, and neither dismissed nor finished since, a dialog is shown for as many ticks as
have passed since it was placed. -/
theorem shown_of_placed {l₀ l : Life} {pre post : List Beat}
    (h : l₀.run (pre ++ Beat.placed :: post) = some l)
    (hdis : Beat.dismissed ∉ post) (hfin : Beat.finished ∉ post) :
    l = shown (post.count .ticked) := by
  rw [run_append] at h
  obtain ⟨m, -, hm⟩ := Option.bind_eq_some_iff.mp h
  obtain ⟨m', hm', hrun⟩ := run_cons_eq_some hm
  -- only a waiting dialog takes a placing, and it is then shown from no ticks on
  have hshown : m' = shown 0 := by
    cases m <;> cases hm'
    rfl
  subst hshown
  simpa using shown_run hrun hdis hfin

end Life

end Parley
