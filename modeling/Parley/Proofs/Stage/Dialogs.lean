import Parley.Proofs.World.Frame

/-!
# Dialogs on the stage

The stage finds a request by its dialog and an open dialog by its dialog, taking the first one
that matches. Kept to one request and one open entry per dialog, with every open dialog's
request placed and not dismissed (`Stage.Sound`), each operation of the stage has a plain form:
closing a dialog drops it from the open list, dismissing also marks its request dismissed,
placing marks its request placed and opens it at the back, asking for a conversation adds a
request after dropping some closed ones, and a tick counts every countdown down and closes the
dialogs that reach zero, announcing them in the order they were opened.

## Implementation notes

The stage locates entries by index (`findIdx?`, then `eraseIdx`, `set` or `modify`). A first
match splits its list into the entries before it, which do not match, the match and the rest
(`findIdx?_eq_some_split`); with one entry per dialog, changing the match is then the same as
changing every entry of that dialog, which is the form every later proof reads.
-/

namespace Parley

section Lists

variable {α β : Type} [DecidableEq β]

/-- A first match splits a list: the entries before it do not match. -/
theorem findIdx?_eq_some_split {p : α → Bool} {l : List α} {i : Nat}
    (h : l.findIdx? p = some i) :
    ∃ as x bs, l = as ++ x :: bs ∧ as.length = i ∧ p x = true ∧ ∀ a ∈ as, p a = false := by
  induction l generalizing i with
  | nil => cases h
  | cons a l ih =>
      rw [List.findIdx?_cons] at h
      by_cases ha : p a = true
      · rw [if_pos ha] at h
        cases h
        exact ⟨[], a, l, rfl, rfl, ha, by simp⟩
      · rw [if_neg ha] at h
        obtain ⟨j, hj, rfl⟩ := Option.map_eq_some_iff.mp h
        obtain ⟨as, x, bs, rfl, rfl, hx, has⟩ := ih hj
        refine ⟨a :: as, x, bs, rfl, rfl, hx, ?_⟩
        intro b hb
        rcases List.mem_cons.mp hb with rfl | hb
        · simpa using ha
        · exact has b hb

/-- With distinct keys, the entry found under a key is the one holding it. -/
theorem find?_key_eq_some_iff {f : α → β} {l : List α} (hl : (l.map f).Nodup) {k : β} {x : α} :
    l.find? (f · == k) = some x ↔ x ∈ l ∧ f x = k := by
  constructor
  · intro h
    exact ⟨List.mem_of_find?_eq_some h, by simpa using List.find?_some h⟩
  · rintro ⟨hx, rfl⟩
    obtain ⟨y, hy⟩ : ∃ y, l.find? (f · == f x) = some y :=
      Option.isSome_iff_exists.mp (List.find?_isSome.mpr ⟨x, hx, by simp⟩)
    have hyk : f y = f x := by simpa using List.find?_some hy
    rw [hy, List.inj_on_of_nodup_map hl (List.mem_of_find?_eq_some hy) hx hyk]

/-- With distinct keys, erasing the first entry of a key drops every entry of it. -/
theorem eraseP_key_eq_filter {f : α → β} {l : List α} (hl : (l.map f).Nodup) (k : β) :
    l.eraseP (f · == k) = l.filter (f · != k) := by
  induction l with
  | nil => rfl
  | cons a l ih =>
      rw [List.map_cons, List.nodup_cons] at hl
      by_cases ha : f a = k
      · have hrest : l.filter (f · != k) = l := List.filter_eq_self.mpr fun b hb => by
          have hne : f b ≠ f a := fun he => hl.1 (he ▸ List.mem_map_of_mem hb)
          simpa [ha] using hne
        rw [List.eraseP_cons_of_pos (by simpa using ha), List.filter_cons_of_neg (by simp [ha]),
          hrest]
      · rw [List.eraseP_cons_of_neg (by simpa using ha), List.filter_cons_of_pos (by simpa using ha),
          ih hl.2]

/-- Around a first match of a key that no other entry holds, changing every entry of the key
changes just the match. -/
theorem map_key_of_split {f : α → β} {as bs : List α} {x : α} {k : β}
    (hl : ((as ++ x :: bs).map f).Nodup) (hx : f x = k) (has : ∀ a ∈ as, (f a == k) = false)
    (g : α → α) :
    (as ++ x :: bs).map (fun z => if f z = k then g z else z) = as ++ g x :: bs := by
  have hbs : ∀ b ∈ bs, f b ≠ k := by
    intro b hb hbk
    rw [List.map_append, List.map_cons] at hl
    have hfx : f x ∈ bs.map f := by rw [hx, ← hbk]; exact List.mem_map_of_mem hb
    exact (List.nodup_cons.mp (List.nodup_append.mp hl).2.1).1 hfx
  simp only [List.map_append, List.map_cons, hx, if_true]
  congr 1
  · refine (List.map_congr_left fun a ha => ?_).trans (List.map_id _)
    have : f a ≠ k := by simpa using has a ha
    simp [this]
  · refine congrArg _ ((List.map_congr_left fun b hb => ?_).trans (List.map_id _))
    simp [hbs b hb]

/-- With distinct keys, changing the first entry of a key changes every entry of it. -/
theorem modify_key_eq_map {f : α → β} {l : List α} (hl : (l.map f).Nodup) {k : β} {i : Nat}
    (hi : l.findIdx? (f · == k) = some i) (g : α → α) :
    l.modify i g = l.map fun x => if f x = k then g x else x := by
  obtain ⟨as, x, bs, rfl, rfl, hx, has⟩ := findIdx?_eq_some_split hi
  rw [map_key_of_split hl (by simpa using hx) has, List.modify_eq_take_drop, List.take_left',
    List.drop_left']
  all_goals rfl

/-- The entry at a first match is that match. -/
theorem getElem?_findIdx? {p : α → Bool} {l : List α} {i : Nat} (hi : l.findIdx? p = some i) :
    l[i]? = l.find? p := by
  obtain ⟨as, x, bs, rfl, rfl, hx, has⟩ := findIdx?_eq_some_split hi
  rw [List.getElem?_append_right (Nat.le_refl _), Nat.sub_self, List.getElem?_cons_zero,
    List.find?_append, List.find?_eq_none.mpr (fun a ha => by simp [has a ha])]
  simp [hx]

/-- With distinct keys, setting the entry at a first match to a new value changes every entry
of that key. -/
theorem set_key_eq_map {f : α → β} {l : List α} (hl : (l.map f).Nodup) {k : β} {i : Nat}
    (hi : l.findIdx? (f · == k) = some i) (y : α) :
    l.set i y = l.map fun z => if f z = k then y else z := by
  obtain ⟨as, x, bs, rfl, rfl, hx, has⟩ := findIdx?_eq_some_split hi
  rw [map_key_of_split hl (by simpa using hx) has, List.set_append, if_neg (Nat.lt_irrefl _),
    Nat.sub_self, List.set_cons_zero]

/-- With distinct keys, a member is the only entry holding its key. -/
theorem filter_key_eq_singleton {f : α → β} {l : List α} (hl : (l.map f).Nodup) {x : α}
    (hx : x ∈ l) {k : β} (hk : f x = k) : l.filter (f · == k) = [x] := by
  subst hk
  induction l with
  | nil => cases hx
  | cons a l ih =>
      rw [List.map_cons, List.nodup_cons] at hl
      rcases List.mem_cons.mp hx with rfl | hx
      · have hrest : l.filter (f · == f x) = [] :=
          List.filter_eq_nil_iff.mpr fun b hb hfb =>
            hl.1 (beq_iff_eq.mp hfb ▸ List.mem_map_of_mem hb)
        rw [List.filter_cons_of_pos (by simp), hrest]
      · have hne : f a ≠ f x := fun he => hl.1 (he ▸ List.mem_map_of_mem hx)
        rw [List.filter_cons_of_neg (by simpa using hne), ih hl.2 hx]

end Lists

/-- An open dialog one tick later: its countdown goes down by one, never below zero. -/
def OpenDialog.countDown (o : OpenDialog) : OpenDialog :=
  { o with remaining := o.remaining.map (· - 1) }

@[simp] theorem OpenDialog.handle_countDown (o : OpenDialog) : o.countDown.handle = o.handle := rfl

@[simp] theorem OpenDialog.remaining_countDown (o : OpenDialog) :
    o.countDown.remaining = o.remaining.map (· - 1) := rfl

namespace Stage

/-- One request and one open entry per dialog, and every open dialog's request placed and not
dismissed. -/
structure Sound (s : Stage) : Prop where
  requests : (s.requests.map (·.dialog.id)).Nodup
  opened : (s.openDialogs.map (·.handle.id)).Nodup
  placed : ∀ o ∈ s.openDialogs, ∃ r ∈ s.requests,
    r.dialog.id = o.handle.id ∧ r.placedAt.isSome ∧ r.dismissed = false

variable {s s' : Stage}

theorem isOpen_iff (s : Stage) (d : DialogId) :
    s.isOpen d = true ↔ ∃ o ∈ s.openDialogs, o.handle.id = d := by
  simp [isOpen, List.any_eq_true]

/-- Closing a dialog hands out the open entry of it and drops it from the open list. -/
theorem close_eq (h : (s.openDialogs.map (·.handle.id)).Nodup) (d : DialogId) :
    s.close d = (s.openDialogs.find? (·.handle.id == d)).map fun o =>
      (o.handle, { s with openDialogs := s.openDialogs.filter (·.handle.id != d) }) := by
  unfold close
  cases hi : s.openDialogs.findIdx? (·.handle.id == d) with
  | none =>
      have hnone : s.openDialogs.find? (·.handle.id == d) = none :=
        List.find?_eq_none.mpr fun o ho => by simpa using List.findIdx?_eq_none_iff.mp hi o ho
      rw [hnone]
      rfl
  | some i =>
      dsimp only
      rw [getElem?_findIdx? hi]
      have herase : s.openDialogs.eraseIdx i = s.openDialogs.eraseP (·.handle.id == d) := by
        rw [List.eraseP_eq_eraseIdx, hi]
      rw [herase, eraseP_key_eq_filter h]
      cases s.openDialogs.find? (·.handle.id == d) <;> rfl

/-- Finishing an open dialog announces it and drops it from the open list. -/
theorem finish_eq (h : (s.openDialogs.map (·.handle.id)).Nodup) (d : DialogId) :
    s.finish d = (s.openDialogs.find? (·.handle.id == d)).map fun o =>
      (finished o.handle, { s with openDialogs := s.openDialogs.filter (·.handle.id != d) }) := by
  unfold finish
  rw [close_eq h, Option.map_map]
  rfl

/-- Dismissing a dialog drops it from the open list and marks its request dismissed. -/
theorem dismiss_eq (h : s.Sound) (d : DialogId) :
    s.dismiss d = { s with
      openDialogs := s.openDialogs.filter (·.handle.id != d)
      requests := s.requests.map fun r =>
        if r.dialog.id = d then { r with dismissed := true } else r } := by
  -- the requests, marked: only the request of the dialog changes
  have hmark : ∀ i, s.requests.findIdx? (·.dialog.id == d) = some i →
      s.requests.modify i (fun r => { r with dismissed := true }) = s.requests.map fun r =>
        if r.dialog.id = d then { r with dismissed := true } else r :=
    fun i hi => modify_key_eq_map h.requests hi _
  have hnone : s.requests.findIdx? (·.dialog.id == d) = none →
      s.requests = s.requests.map fun r =>
        if r.dialog.id = d then { r with dismissed := true } else r := by
    intro hi
    refine ((List.map_congr_left fun r hr => ?_).trans (List.map_id _)).symm
    have := List.findIdx?_eq_none_iff.mp hi r hr
    simp_all
  have hc := close_eq h.opened d
  unfold dismiss
  cases hcl : s.close d with
  | none =>
      rw [hcl, eq_comm, Option.map_eq_none_iff] at hc
      have hkeep : s.openDialogs.filter (·.handle.id != d) = s.openDialogs :=
        List.filter_eq_self.mpr fun o ho => by simpa using List.find?_eq_none.mp hc o ho
      dsimp only
      rw [hkeep]
      cases hi : s.requests.findIdx? (·.dialog.id == d) with
      | none =>
          dsimp only
          rw [← hnone hi]
      | some i =>
          dsimp only
          rw [hmark i hi]
  | some p =>
      rw [hcl, eq_comm] at hc
      obtain ⟨o, -, hp⟩ := Option.map_eq_some_iff.mp hc
      subst hp
      dsimp only
      cases hi : s.requests.findIdx? (·.dialog.id == d) with
      | none =>
          dsimp only
          congr 1
          exact hnone hi
      | some i =>
          dsimp only
          rw [hmark i hi]

/-- Placing a dialog, when its request is there, not dismissed and not placed, marks the request
placed and opens the dialog at the back with the stage's countdown; otherwise it is refused. -/
theorem place_eq (h : s.Sound) (x y : Int) (handle : DialogHandle) :
    s.place x y handle =
      if ∃ r ∈ s.requests, r.dialog.id = handle.id ∧ r.dismissed = false ∧ r.placedAt = none then
        .ok { s with
          requests := s.requests.map fun r =>
            if r.dialog.id = handle.id then { r with placedAt := some (x, y) } else r
          openDialogs := s.openDialogs ++ [⟨handle, s.autoFinish⟩] }
      else .error (.unknownDialog handle.id) := by
  unfold place
  cases hi : s.requests.findIdx? (·.dialog.id == handle.id) with
  | none =>
      have hnone : ¬∃ r ∈ s.requests,
          r.dialog.id = handle.id ∧ r.dismissed = false ∧ r.placedAt = none := by
        rintro ⟨r, hr, hid, -⟩
        have := List.findIdx?_eq_none_iff.mp hi r hr
        simp_all
      rw [if_neg hnone]
  | some i =>
      have hget := getElem?_findIdx? hi
      obtain ⟨r, hr⟩ : ∃ r, s.requests.find? (·.dialog.id == handle.id) = some r := by
        obtain ⟨as, x, bs, hsplit, rfl, hx, -⟩ := findIdx?_eq_some_split hi
        exact Option.isSome_iff_exists.mp
          (List.find?_isSome.mpr ⟨x, by rw [hsplit]; simp, hx⟩)
      obtain ⟨hmem, hid⟩ := (find?_key_eq_some_iff h.requests).mp hr
      dsimp only
      rw [hget, hr]
      dsimp only
      -- the request found is the only one of its dialog
      have hiff : (∃ r' ∈ s.requests,
          r'.dialog.id = handle.id ∧ r'.dismissed = false ∧ r'.placedAt = none) ↔
          (r.dismissed = false ∧ r.placedAt = none) := by
        constructor
        · rintro ⟨r', hr', hid', hd, hp⟩
          obtain rfl := List.inj_on_of_nodup_map h.requests hr' hmem (hid'.trans hid.symm)
          exact ⟨hd, hp⟩
        · rintro ⟨hd, hp⟩
          exact ⟨r, hmem, hid, hd, hp⟩
      rw [if_congr hiff rfl rfl]
      by_cases hok : r.dismissed = false ∧ r.placedAt = none
      · rw [if_pos hok]
        have hcond : (r.dismissed || r.placedAt.isSome) = false := by simp [hok.1, hok.2]
        rw [if_neg (by simp [hcond]), set_key_eq_map h.requests hi]
        -- the request of the dialog is `r`, the only one
        congr 2
        apply List.map_congr_left
        intro z hz
        by_cases hzid : z.dialog.id = handle.id
        · obtain rfl := List.inj_on_of_nodup_map h.requests hz hmem (hzid.trans hid.symm)
          simp [hzid]
        · simp [hzid]
      · rw [if_neg hok]
        have hcond : (r.dismissed || r.placedAt.isSome) = true := by
          cases hd : r.dismissed <;> cases hp : r.placedAt <;> simp_all
        rw [if_pos hcond]

theorem place_eq_ok (h : s.Sound) {x y : Int} {handle : DialogHandle}
    (hok : s.place x y handle = .ok s') :
    s' = { s with
      requests := s.requests.map fun r =>
        if r.dialog.id = handle.id then { r with placedAt := some (x, y) } else r
      openDialogs := s.openDialogs ++ [⟨handle, s.autoFinish⟩] } := by
  rw [place_eq h] at hok
  split at hok
  · cases hok
    rfl
  · cases hok

/-- Trimming the history keeps the open dialogs, keeps a sublist of the requests, and keeps
every request that is not closed. -/
theorem trim_spec (s : Stage) (fuel : Nat) :
    (s.trim fuel).openDialogs = s.openDialogs ∧ (s.trim fuel).autoFinish = s.autoFinish ∧
      (s.trim fuel).screenLength = s.screenLength ∧
      (s.trim fuel).requests.Sublist s.requests ∧
      ∀ r ∈ s.requests, s.isClosed r = false → r ∈ (s.trim fuel).requests := by
  induction fuel generalizing s with
  | zero => exact ⟨rfl, rfl, rfl, List.Sublist.refl _, fun r hr _ => hr⟩
  | succ fuel ih =>
      unfold trim
      split
      · exact ⟨rfl, rfl, rfl, List.Sublist.refl _, fun r hr _ => hr⟩
      · split
        · rename_i i hi
          obtain ⟨hopen, hauto, hscreen, hsub, hkeep⟩ :=
            ih { s with requests := s.requests.eraseIdx i }
          refine ⟨hopen, hauto, hscreen, hsub.trans (List.eraseIdx_sublist _ _), ?_⟩
          intro r hr hc
          obtain ⟨as, x, bs, hsplit, rfl, hx, -⟩ := findIdx?_eq_some_split hi
          apply hkeep r _ hc
          -- the request dropped is closed, so it is not `r`
          have hne : r ≠ x := by
            rintro rfl
            rw [hc] at hx
            cases hx
          rw [hsplit] at hr ⊢
          rw [List.eraseIdx_append_of_length_le (Nat.le_refl _), Nat.sub_self,
            List.eraseIdx_cons_zero]
          rcases List.mem_append.mp hr with hr | hr
          · exact List.mem_append_left _ hr
          · exact List.mem_append_right _ ((List.mem_cons.mp hr).resolve_left hne)
        · exact ⟨rfl, rfl, rfl, List.Sublist.refl _, fun r hr _ => hr⟩

/-- Asking for a conversation: refused for a size that does not fit or a mind without dialogue,
otherwise the request is added after some closed requests are dropped. -/
theorem create_eq_ok {handle : DialogHandle} {mind : Mind} {width height : Nat}
    (h : s.create handle mind width height = .ok s') :
    s' = { s.trim s.requests.length with
      requests := (s.trim s.requests.length).requests ++
        [⟨handle, mind, width, height, none, false⟩] } := by
  unfold create at h
  split at h
  · cases h
  · split at h
    · cases h
    · cases h
      rfl

theorem create_openDialogs {handle : DialogHandle} {mind : Mind} {width height : Nat}
    (h : s.create handle mind width height = .ok s') : s'.openDialogs = s.openDialogs := by
  rw [create_eq_ok h]
  exact (trim_spec s _).1

/-- Closing, one after another, open entries taken in the order they are open announces each and
drops them, given a step that closes the entry it is handed. -/
theorem foldl_close {F : List Event × Stage → OpenDialog → List Event × Stage}
    (hF : ∀ events st o, (st.openDialogs.map (·.handle.id)).Nodup → o ∈ st.openDialogs →
      F (events, st) o = (events ++ [finished o.handle],
        { st with openDialogs := st.openDialogs.filter (·.handle.id != o.handle.id) }))
    (E : List OpenDialog) (events : List Event) (st : Stage)
    (hnd : (st.openDialogs.map (·.handle.id)).Nodup) (hsub : E.Sublist st.openDialogs) :
    E.foldl F (events, st) = (events ++ E.map (finished ·.handle),
      { st with openDialogs := st.openDialogs.filter fun o => o ∉ E }) := by
  induction E generalizing events st with
  | nil => simp
  | cons o E ih =>
      have ho : o ∈ st.openDialogs := hsub.subset List.mem_cons_self
      -- the entries after `o` are of other dialogs, so they stay open once `o` closes
      have hids : ∀ e ∈ E, e.handle.id ≠ o.handle.id := by
        intro e he heq
        have hnd' := List.nodup_cons.mp (hnd.sublist (hsub.map (·.handle.id)))
        have hmem : o.handle.id ∈ E.map (·.handle.id) := by
          rw [← heq]
          exact List.mem_map_of_mem he
        exact hnd'.1 hmem
      have hsub' : E.Sublist (st.openDialogs.filter (·.handle.id != o.handle.id)) := by
        have := (List.sublist_of_cons_sublist hsub).filter (·.handle.id != o.handle.id)
        rwa [List.filter_eq_self.mpr fun e he => by simpa using hids e he] at this
      rw [List.foldl_cons, hF events st o hnd ho,
        ih _ _ (hnd.sublist (List.filter_sublist.map _)) hsub', List.filter_filter]
      simp only [List.map_cons, List.append_assoc, List.singleton_append]
      congr 2
      apply List.filter_congr
      intro x hx
      by_cases hxo : x = o
      · subst hxo
        simp
      · have hne : x.handle.id ≠ o.handle.id := fun h => hxo (List.inj_on_of_nodup_map hnd hx ho h)
        simp [hxo, hne]

/-- One tick, with one open entry per dialog: every countdown goes down by one, never below
zero, and the dialogs whose countdown reaches zero close and are announced, in opening
order. -/
theorem tick_eq (h : (s.openDialogs.map (·.handle.id)).Nodup) :
    s.tick = (((s.openDialogs.map OpenDialog.countDown).filter (·.remaining == some 0)).map
        (finished ·.handle),
      { s with
        openDialogs := (s.openDialogs.map OpenDialog.countDown).filter (·.remaining != some 0) })
    := by
  have hcounted : ((s.openDialogs.map OpenDialog.countDown).map (·.handle.id)).Nodup := by
    rwa [List.map_map]
  unfold tick
  dsimp only
  rw [foldl_close _ _ [] _ hcounted List.filter_sublist, List.nil_append]
  · congr 2
    apply List.filter_congr
    intro x hx
    simp only [hx, List.mem_filter, true_and, decide_not, bne, Bool.not_eq_eq_eq_not, Bool.not_not]
    rw [Bool.eq_iff_iff, decide_eq_true_iff, beq_iff_eq]
  · intro events st o hnd ho
    dsimp only
    rw [close_eq hnd, (find?_key_eq_some_iff hnd).mpr ⟨ho, rfl⟩]
    rfl

/-- A tick announces the dialogs whose countdown reaches zero. -/
theorem mem_tick_fst (h : (s.openDialogs.map (·.handle.id)).Nodup) {e : Event} :
    e ∈ s.tick.1 ↔
      ∃ o ∈ s.openDialogs, o.countDown.remaining = some 0 ∧ e = finished o.handle := by
  rw [tick_eq h]
  simp only [List.mem_map, List.mem_filter, beq_iff_eq]
  constructor
  · rintro ⟨o, ⟨⟨o₀, ho₀, rfl⟩, hz⟩, rfl⟩
    exact ⟨o₀, ho₀, hz, rfl⟩
  · rintro ⟨o₀, ho₀, hz, rfl⟩
    exact ⟨o₀.countDown, ⟨⟨o₀, ho₀, rfl⟩, hz⟩, rfl⟩

/-- After a tick the dialogs still open are those counted down short of zero. -/
theorem mem_tick_snd (h : (s.openDialogs.map (·.handle.id)).Nodup) {o : OpenDialog} :
    o ∈ s.tick.2.openDialogs ↔
      ∃ o₀ ∈ s.openDialogs, o₀.countDown.remaining ≠ some 0 ∧ o = o₀.countDown := by
  rw [tick_eq h]
  simp only [List.mem_filter, List.mem_map, bne_iff_ne, ne_eq]
  constructor
  · rintro ⟨⟨o₀, ho₀, rfl⟩, hz⟩
    exact ⟨o₀, ho₀, hz, rfl⟩
  · rintro ⟨o₀, ho₀, hz, rfl⟩
    exact ⟨⟨o₀, ho₀, rfl⟩, hz⟩

theorem tick_requests (h : (s.openDialogs.map (·.handle.id)).Nodup) :
    s.tick.2.requests = s.requests := by
  rw [tick_eq h]

namespace Sound

/-- Finishing a dialog keeps the stage sound. -/
theorem finish {d : DialogId} {e : Event} (h : s.Sound) (hf : s.finish d = some (e, s')) :
    s'.Sound := by
  rw [finish_eq h.opened] at hf
  obtain ⟨o, -, ho⟩ := Option.map_eq_some_iff.mp hf
  cases ho
  exact ⟨h.requests, h.opened.sublist (List.filter_sublist.map _),
    fun o ho => h.placed o (List.mem_of_mem_filter ho)⟩

theorem dismiss (h : s.Sound) (d : DialogId) : (s.dismiss d).Sound := by
  rw [dismiss_eq h]
  refine ⟨?_, h.opened.sublist (List.filter_sublist.map _), ?_⟩
  · -- marking a request keeps its dialog
    rw [List.map_map]
    convert h.requests using 2
    funext r
    simp only [Function.comp_apply]
    split <;> rfl
  · intro o ho
    obtain ⟨ho, hne⟩ := List.mem_filter.mp ho
    obtain ⟨r, hr, hid, hplaced, hdis⟩ := h.placed o ho
    have hrd : r.dialog.id ≠ d := by simpa [hid] using hne
    exact ⟨r, List.mem_map.mpr ⟨r, hr, by simp [hrd]⟩, hid, hplaced, hdis⟩

theorem place {x y : Int} {handle : DialogHandle} (h : s.Sound)
    (hok : s.place x y handle = .ok s') : s'.Sound := by
  rw [place_eq h] at hok
  split at hok
  · rename_i hwait
    cases hok
    obtain ⟨r, hr, hid, hdis, hnone⟩ := hwait
    -- no open dialog has this dialog yet: its request is not placed
    have hclosed : ∀ o ∈ s.openDialogs, o.handle.id ≠ handle.id := by
      intro o ho hoid
      obtain ⟨r', hr', hid', hplaced, -⟩ := h.placed o ho
      obtain rfl := List.inj_on_of_nodup_map h.requests hr' hr (hid'.trans (hoid.trans hid.symm))
      simp [hnone] at hplaced
    refine ⟨?_, ?_, ?_⟩
    · rw [List.map_map]
      convert h.requests using 2
      funext r
      simp only [Function.comp_apply]
      split <;> rfl
    · rw [List.map_append, List.map_singleton]
      refine List.nodup_append.mpr ⟨h.opened, List.nodup_singleton _, ?_⟩
      rintro _ ha _ hb rfl
      obtain ⟨o, ho, rfl⟩ := List.mem_map.mp ha
      exact hclosed o ho (List.mem_singleton.mp hb)
    · intro o ho
      rcases List.mem_append.mp ho with ho | ho
      · obtain ⟨r', hr', hid', hplaced, hdis'⟩ := h.placed o ho
        have hne : r'.dialog.id ≠ handle.id := hid' ▸ hclosed o ho
        exact ⟨r', List.mem_map.mpr ⟨r', hr', by simp [hne]⟩, hid', hplaced, hdis'⟩
      · obtain rfl := List.mem_singleton.mp ho
        exact ⟨{ r with placedAt := some (x, y) }, List.mem_map.mpr ⟨r, hr, by simp [hid]⟩,
          hid, rfl, hdis⟩
  · cases hok

/-- Asking for a conversation under a dialog no request has keeps the stage sound. -/
theorem create {handle : DialogHandle} {mind : Mind} {width height : Nat} (h : s.Sound)
    (hfresh : ∀ r ∈ s.requests, r.dialog.id ≠ handle.id)
    (hok : s.create handle mind width height = .ok s') : s'.Sound := by
  rw [create_eq_ok hok]
  obtain ⟨hopen, -, -, hsub, hkeep⟩ := trim_spec s s.requests.length
  refine ⟨?_, ?_, ?_⟩
  · rw [List.map_append, List.map_singleton]
    refine List.nodup_append.mpr ⟨h.requests.sublist (hsub.map _), List.nodup_singleton _, ?_⟩
    rintro _ ha _ hb rfl
    obtain ⟨r, hr, rfl⟩ := List.mem_map.mp ha
    exact hfresh r (hsub.subset hr) (List.mem_singleton.mp hb)
  · rw [hopen]
    exact h.opened
  · -- the request of an open dialog is not closed, so the trim keeps it
    intro o ho
    rw [hopen] at ho
    obtain ⟨r, hr, hid, hplaced, hdis⟩ := h.placed o ho
    have hnot : s.isClosed r = false := by
      have hopen' : s.isOpen r.dialog.id = true := (isOpen_iff s _).mpr ⟨o, ho, hid.symm⟩
      simp [isClosed, hdis, hplaced, hopen']
    exact ⟨r, List.mem_append_left _ (hkeep r hr hnot), hid, hplaced, hdis⟩

theorem tick (h : s.Sound) : s.tick.2.Sound := by
  rw [tick_eq h.opened]
  refine ⟨h.requests, ?_, ?_⟩
  · have hmap : (s.openDialogs.map OpenDialog.countDown).map (·.handle.id) =
        s.openDialogs.map (·.handle.id) := by
      rw [List.map_map]
      rfl
    exact (hmap ▸ h.opened).sublist (List.filter_sublist.map _)
  · intro o ho
    obtain ⟨o₀, ho₀, rfl⟩ := List.mem_map.mp (List.mem_of_mem_filter ho)
    exact h.placed o₀ ho₀

end Sound

end Stage

end Parley
