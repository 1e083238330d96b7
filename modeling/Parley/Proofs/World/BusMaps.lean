import Parley.Proofs.KeyMap
import Parley.World.Bus

/-!
# The two maps of the bus

The bus keeps its registrations twice: the listeners map gives each signal its waiting sessions
under their numbers, and the signals map gives each waiting number its signal. Read as one list,
the listeners map is `Bus.registrations`, and every operation has an equation for it: announcing
and observing leave it, handing out a signal removes exactly that signal's registrations, and
registering adds one, at the end when nothing waited for its signal. Taking a number back always
drops the number from the signals map; when its signal's list holds it, the first registration
under it leaves the list and its session is handed back, and otherwise nothing is handed back.

The maps agree (`Bus.Consistent`): a number in the signals map is found in its signal's list,
every number in a list points back at the list's signal, no list is empty, and the numbers are
distinct and below the next one to give. Every operation keeps that agreement, and under it the
two exits of taking a number back that drop the number and hand nothing back never happen: a
number can be taken back exactly when it waits, and as many numbers wait as there are
registrations.
-/

namespace Parley

namespace KeyMap

variable {κ ν : Type} [DecidableEq κ] {m : KeyMap κ ν} {k : κ}

/-- Setting a missing key and erasing it again leaves the map as it was. -/
theorem erase_insert_of_lookup_eq_none (h : m.lookup k = none) (v : ν) :
    (m.insert k v).erase k = m := by
  apply ext
  rw [entries_erase, entries_insert, List.filter_append, List.filter_filter,
    List.filter_singleton]
  simp only [bne_self_eq_false, Bool.and_self, cond_false, List.append_nil]
  exact congrArg entries (erase_of_lookup_eq_none h)

end KeyMap

namespace Bus

variable {b : Bus}

/-- The registrations one entry of the listeners map stands for. -/
def entryRegistrations (e : Signal × List (Nat × Session)) : List Registration :=
  e.2.map fun r => ⟨r.1, e.1, r.2⟩

theorem registrations_eq (b : Bus) :
    b.registrations = b.listeners.entries.flatMap entryRegistrations := rfl

/-- Keeping the registrations of some signals keeps the entries of those signals. -/
theorem filter_flatMap_entryRegistrations (p : Signal → Bool)
    (l : List (Signal × List (Nat × Session))) :
    (l.flatMap entryRegistrations).filter (fun r => p r.signal) =
      (l.filter fun e => p e.1).flatMap entryRegistrations := by
  induction l with
  | nil => rfl
  | cons e rest ih =>
      rw [List.flatMap_cons, List.filter_append, ih, List.filter_cons]
      by_cases he : p e.1 = true
      · have hkeep : (entryRegistrations e).filter (fun r => p r.signal) =
            entryRegistrations e := List.filter_eq_self.mpr fun r hr => by
          obtain ⟨x, -, rfl⟩ := List.mem_map.mp hr
          exact he
        rw [hkeep, if_pos he, List.flatMap_cons]
      · have hdrop : (entryRegistrations e).filter (fun r => p r.signal) = [] :=
          List.filter_eq_nil_iff.mpr fun r hr => by
            obtain ⟨x, -, rfl⟩ := List.mem_map.mp hr
            exact he
        rw [hdrop, if_neg he, List.nil_append]

/-- The registrations of one signal are that signal's list. -/
theorem filter_signal_eq (b : Bus) (sig : Signal) :
    b.registrations.filter (·.signal == sig) =
      ((b.listeners.lookup sig).getD []).map fun r => ⟨r.1, sig, r.2⟩ := by
  have h := filter_flatMap_entryRegistrations (· == sig) b.listeners.entries
  rw [KeyMap.filter_key_eq] at h
  rw [registrations_eq, h]
  cases b.listeners.lookup sig <;> simp [entryRegistrations]

/-- The registrations of the other signals are those of the listeners map without the signal. -/
theorem filter_signal_ne (b : Bus) (sig : Signal) :
    b.registrations.filter (·.signal != sig) =
      (b.listeners.erase sig).entries.flatMap entryRegistrations :=
  filter_flatMap_entryRegistrations (· != sig) b.listeners.entries

/-- A registration waits exactly when its signal's list holds its number and session. -/
theorem mem_registrations {r : Registration} :
    r ∈ b.registrations ↔
      ∃ regs, b.listeners.lookup r.signal = some regs ∧ (r.number, r.session) ∈ regs := by
  have hmem : r ∈ b.registrations ↔ r ∈ b.registrations.filter (·.signal == r.signal) := by
    simp [List.mem_filter]
  rw [hmem, filter_signal_eq]
  obtain ⟨n, sig, s⟩ := r
  cases b.listeners.lookup sig with
  | none => simp
  | some regs =>
      simp only [Option.getD_some, List.mem_map, Option.some.injEq, exists_eq_left',
        Registration.mk.injEq, true_and]
      constructor
      · rintro ⟨p, hp, rfl, rfl⟩
        exact hp
      · intro hp
        exact ⟨_, hp, rfl, rfl⟩

/-- The registrations once a signal's list is set: the other signals' registrations, then the
new list's. -/
theorem registrations_of_listeners_eq_insert {b' : Bus} {sig : Signal} {regs : List (Nat × Session)}
    (h : b'.listeners = b.listeners.insert sig regs) :
    b'.registrations = b.registrations.filter (·.signal != sig) ++
      regs.map fun r => ⟨r.1, sig, r.2⟩ := by
  rw [registrations_eq, h, filter_signal_ne, KeyMap.entries_insert, KeyMap.entries_erase,
    List.flatMap_append]
  simp [entryRegistrations]

/-- The registrations once a signal's list is removed: those of the other signals. -/
theorem registrations_of_listeners_eq_erase {b' : Bus} {sig : Signal}
    (h : b'.listeners = b.listeners.erase sig) :
    b'.registrations = b.registrations.filter (·.signal != sig) := by
  rw [registrations_eq, h, filter_signal_ne]

/-! ### The operations, read through the registrations -/

/-- The registrations read the listeners map alone. -/
@[simp] theorem registrations_setQueue (b : Bus) (q : List Event) :
    ({ b with queue := q } : Bus).registrations = b.registrations := rfl

@[simp] theorem publish_listeners (b : Bus) (e : Event) : (b.publish e).listeners = b.listeners :=
  rfl

@[simp] theorem publish_signals (b : Bus) (e : Event) : (b.publish e).signals = b.signals := rfl

@[simp] theorem publish_registrations (b : Bus) (e : Event) :
    (b.publish e).registrations = b.registrations := rfl

@[simp] theorem publish_nextNumber (b : Bus) (e : Event) :
    (b.publish e).nextNumber = b.nextNumber := rfl

@[simp] theorem publish_queue (b : Bus) (e : Event) : (b.publish e).queue = b.queue ++ [e] := rfl

@[simp] theorem publish_logs (b : Bus) (e : Event) : (b.publish e).logs = b.logs := rfl

@[simp] theorem observe_listeners (b : Bus) (e : Event) : (b.observe e).listeners = b.listeners :=
  rfl

@[simp] theorem observe_signals (b : Bus) (e : Event) : (b.observe e).signals = b.signals := rfl

@[simp] theorem observe_registrations (b : Bus) (e : Event) :
    (b.observe e).registrations = b.registrations := rfl

@[simp] theorem observe_nextNumber (b : Bus) (e : Event) :
    (b.observe e).nextNumber = b.nextNumber := rfl

@[simp] theorem observe_queue (b : Bus) (e : Event) : (b.observe e).queue = b.queue := rfl

@[simp] theorem listen_fst (b : Bus) (signal : Signal) (s : Session) :
    (b.listen signal s).1 = b.nextNumber := rfl

@[simp] theorem listen_signals (b : Bus) (signal : Signal) (s : Session) :
    (b.listen signal s).2.signals = b.signals.insert b.nextNumber signal := rfl

@[simp] theorem listen_nextNumber (b : Bus) (signal : Signal) (s : Session) :
    (b.listen signal s).2.nextNumber = b.nextNumber + 1 := rfl

@[simp] theorem listen_queue (b : Bus) (signal : Signal) (s : Session) :
    (b.listen signal s).2.queue = b.queue := rfl

@[simp] theorem listen_logs (b : Bus) (signal : Signal) (s : Session) :
    (b.listen signal s).2.logs = b.logs := rfl

/-- Registering puts the new registration after those of its signal, which move behind the
registrations of the other signals. -/
theorem listen_registrations (b : Bus) (signal : Signal) (s : Session) :
    (b.listen signal s).2.registrations = b.registrations.filter (·.signal != signal) ++
      (b.registrations.filter (·.signal == signal) ++ [⟨b.nextNumber, signal, s⟩]) := by
  rw [registrations_of_listeners_eq_insert (b := b) rfl, filter_signal_eq, List.map_append]
  rfl

/-- Order aside, registering adds one registration. -/
theorem listen_registrations_perm (b : Bus) (signal : Signal) (s : Session) :
    (b.listen signal s).2.registrations.Perm (b.registrations ++ [⟨b.nextNumber, signal, s⟩]) := by
  rw [listen_registrations, ← List.append_assoc]
  exact List.Perm.append_right _ (List.perm_append_comm.trans (List.filter_append_perm _ _))

/-- When nothing waits for a signal, every registration is of another signal. -/
theorem filter_signal_ne_of_lookup_eq_none {signal : Signal}
    (h : b.listeners.lookup signal = none) :
    b.registrations.filter (·.signal != signal) = b.registrations := by
  refine List.filter_eq_self.mpr fun r hr => bne_iff_ne.mpr fun hsig => ?_
  obtain ⟨regs, hregs, -⟩ := mem_registrations.mp hr
  rw [hsig, h] at hregs
  cases hregs

/-- Registering for a signal nothing waits for adds the registration at the end. -/
theorem listen_registrations_of_lookup_eq_none {signal : Signal}
    (h : b.listeners.lookup signal = none) (s : Session) :
    (b.listen signal s).2.registrations = b.registrations ++ [⟨b.nextNumber, signal, s⟩] := by
  rw [registrations_of_listeners_eq_insert (b := b) rfl, filter_signal_ne_of_lookup_eq_none h, h]
  rfl

@[simp] theorem take_fst (b : Bus) (signal : Signal) :
    (b.take signal).1 = (b.registrations.filter (·.signal == signal)).map (·.session) := by
  rw [filter_signal_eq, List.map_map]
  rfl

@[simp] theorem take_registrations (b : Bus) (signal : Signal) :
    (b.take signal).2.registrations = b.registrations.filter (·.signal != signal) :=
  registrations_of_listeners_eq_erase rfl

@[simp] theorem take_nextNumber (b : Bus) (signal : Signal) :
    (b.take signal).2.nextNumber = b.nextNumber := rfl

@[simp] theorem take_queue (b : Bus) (signal : Signal) : (b.take signal).2.queue = b.queue := rfl

@[simp] theorem take_logs (b : Bus) (signal : Signal) : (b.take signal).2.logs = b.logs := rfl

/-- Handing a signal out drops the numbers of its list from the signals map. -/
theorem lookup_foldl_erase (l : List (Nat × Session)) (m : KeyMap Nat Signal) (n : Nat) :
    (l.foldl (fun m r => m.erase r.1) m).lookup n =
      if l.any (·.1 == n) then none else m.lookup n := by
  induction l generalizing m with
  | nil => rfl
  | cons r rest ih =>
      rw [List.foldl_cons, ih, KeyMap.lookup_erase, List.any_cons]
      by_cases hr : n = r.1
      · simp [hr]
      · have hr' : (r.1 == n) = false := beq_false_of_ne (Ne.symm hr)
        rw [if_neg hr, hr', Bool.false_or]

/-- The first registration under a number in a list is the one that erasing the number's first
entry removes. -/
theorem perm_eraseP_of_find? {regs : List (Nat × Session)} {n m : Nat} {s : Session}
    (h : regs.find? (·.1 == n) = some (m, s)) :
    m = n ∧ regs.Perm ((n, s) :: regs.eraseP (·.1 == n)) := by
  obtain ⟨hm, as, bs, rfl, has⟩ := List.find?_eq_some_iff_append.mp h
  have hmn : m = n := beq_iff_eq.mp hm
  subst hmn
  refine ⟨rfl, ?_⟩
  rw [List.eraseP_append_right _ fun x hx hxn => by simpa [hxn] using has x hx,
    List.eraseP_cons_of_pos (p := fun x : Nat × Session => x.1 == m) hm]
  exact List.perm_middle

/-- What taking a number back can do: drop the number from the signals map and hand nothing
back, or also hand back the session of the first registration under the number in its
signal's list, which leaves the list, the list leaving the map once empty. -/
theorem unlisten_cases (b : Bus) (n : Nat) :
    b.unlisten n = (none, { b with signals := b.signals.erase n }) ∨
    ∃ sig regs s, b.signals.lookup n = some sig ∧ b.listeners.lookup sig = some regs ∧
      regs.Perm ((n, s) :: regs.eraseP (·.1 == n)) ∧
      b.unlisten n = (some s, { b with
        signals := b.signals.erase n
        listeners := if (regs.eraseP (·.1 == n)).isEmpty then b.listeners.erase sig
          else b.listeners.insert sig (regs.eraseP (·.1 == n)) }) := by
  unfold unlisten
  cases hl : b.signals.lookup n with
  | none => exact .inl (by rw [KeyMap.erase_of_lookup_eq_none hl])
  | some sig =>
      dsimp only
      cases hr : b.listeners.lookup sig with
      | none => exact .inl rfl
      | some regs =>
          dsimp only
          cases hf : regs.find? (·.1 == n) with
          | none => exact .inl rfl
          | some p =>
              obtain ⟨m, s⟩ := p
              obtain ⟨-, hperm⟩ := perm_eraseP_of_find? hf
              exact .inr ⟨sig, regs, s, rfl, hr, hperm, rfl⟩

@[simp] theorem unlisten_signals (b : Bus) (n : Nat) :
    (b.unlisten n).2.signals = b.signals.erase n := by
  rcases unlisten_cases b n with h | ⟨sig, regs, s, -, -, -, h⟩ <;> rw [h]

@[simp] theorem unlisten_nextNumber (b : Bus) (n : Nat) :
    (b.unlisten n).2.nextNumber = b.nextNumber := by
  rcases unlisten_cases b n with h | ⟨sig, regs, s, -, -, -, h⟩ <;> rw [h]

@[simp] theorem unlisten_queue (b : Bus) (n : Nat) : (b.unlisten n).2.queue = b.queue := by
  rcases unlisten_cases b n with h | ⟨sig, regs, s, -, -, -, h⟩ <;> rw [h]

@[simp] theorem unlisten_logs (b : Bus) (n : Nat) : (b.unlisten n).2.logs = b.logs := by
  rcases unlisten_cases b n with h | ⟨sig, regs, s, -, -, -, h⟩ <;> rw [h]

/-- Taking back a number that hands nothing back leaves the registrations. -/
theorem unlisten_registrations_of_fst_eq_none {n : Nat} (h : (b.unlisten n).1 = none) :
    (b.unlisten n).2.registrations = b.registrations := by
  rcases unlisten_cases b n with hu | ⟨sig, regs, s, -, -, -, hu⟩ <;> rw [hu] at h ⊢
  · rfl
  · cases h

/-- Taking back a number that hands a session back removes exactly the registration of that
session under the number. -/
theorem unlisten_registrations_of_fst_eq_some {n : Nat} {s : Session}
    (h : (b.unlisten n).1 = some s) :
    ∃ sig, b.signals.lookup n = some sig ∧
      b.registrations.Perm (⟨n, sig, s⟩ :: (b.unlisten n).2.registrations) := by
  rcases unlisten_cases b n with hu | ⟨sig, regs, s', hs, hr, hperm, hu⟩ <;> rw [hu] at h ⊢
  · cases h
  · cases h
    refine ⟨sig, hs, ?_⟩
    -- whether the list is left empty or not, what remains is the other signals' registrations
    -- followed by the rest of the list
    have hafter : ({ b with
        signals := b.signals.erase n
        listeners := if (regs.eraseP (·.1 == n)).isEmpty then b.listeners.erase sig
          else b.listeners.insert sig (regs.eraseP (·.1 == n)) } : Bus).registrations =
        b.registrations.filter (·.signal != sig) ++
          (regs.eraseP (·.1 == n)).map fun r => ⟨r.1, sig, r.2⟩ := by
      split
      · next hempty =>
          rw [List.isEmpty_iff.mp hempty, List.map_nil, List.append_nil]
          exact registrations_of_listeners_eq_erase rfl
      · exact registrations_of_listeners_eq_insert rfl
    have hsplit := (List.filter_append_perm (·.signal != sig) b.registrations).symm
    have hsig : b.registrations.filter (fun r => !(r.signal != sig)) =
        b.registrations.filter (·.signal == sig) := by
      simp only [bne, Bool.not_not]
    rw [hsig, filter_signal_eq, hr, Option.getD_some] at hsplit
    rw [hafter]
    refine hsplit.trans ((List.Perm.append_left _ (hperm.map _)).trans ?_)
    exact List.perm_middle

/-- Taking back the only registration of its signal removes the number and the signal's list. -/
theorem unlisten_of_lookup_eq_singleton {n : Nat} {sig : Signal} {s : Session}
    (hs : b.signals.lookup n = some sig) (hl : b.listeners.lookup sig = some [(n, s)]) :
    b.unlisten n = (some s, { b with
      signals := b.signals.erase n
      listeners := b.listeners.erase sig }) := by
  simp [unlisten, hs, hl]

/-! ### Distinct numbers -/

/-- Registration numbers are distinct and below the next number to give. -/
structure Numbered (b : Bus) : Prop where
  nodup : (b.registrations.map (·.number)).Nodup
  lt : ∀ r ∈ b.registrations, r.number < b.nextNumber

theorem Numbered.subperm {b' : Bus} (h : b.Numbered)
    (hs : b'.registrations.Subperm b.registrations) (hn : b.nextNumber ≤ b'.nextNumber) :
    b'.Numbered := by
  obtain ⟨l, hp, hsub⟩ := hs
  exact ⟨(hp.map _).nodup_iff.mp ((hsub.map _).nodup h.nodup),
    fun r hr => Nat.lt_of_lt_of_le (h.lt r (hsub.subset (hp.mem_iff.mpr hr))) hn⟩

theorem Numbered.listen (h : b.Numbered) (signal : Signal) (s : Session) :
    (b.listen signal s).2.Numbered := by
  have hperm := b.listen_registrations_perm signal s
  constructor
  · rw [(hperm.map _).nodup_iff, List.map_append, List.map_singleton, ← List.concat_eq_append]
    refine h.nodup.concat fun hmem => ?_
    obtain ⟨r, hr, heq⟩ := List.mem_map.mp hmem
    exact Nat.ne_of_lt (h.lt r hr) heq
  · intro r hr
    rw [hperm.mem_iff, List.mem_append, List.mem_singleton] at hr
    rcases hr with hr | rfl
    · exact Nat.lt_succ_of_lt (h.lt r hr)
    · exact Nat.lt_succ_self _

theorem Numbered.take (h : b.Numbered) (signal : Signal) : (b.take signal).2.Numbered :=
  h.subperm (by rw [take_registrations]; exact List.filter_sublist.subperm) (Nat.le_refl _)

theorem Numbered.unlisten (h : b.Numbered) (n : Nat) : (b.unlisten n).2.Numbered := by
  refine h.subperm ?_ (Nat.le_of_eq (unlisten_nextNumber b n).symm)
  cases hu : (b.unlisten n).1 with
  | none => rw [unlisten_registrations_of_fst_eq_none hu]
  | some s =>
      obtain ⟨sig, -, hperm⟩ := unlisten_registrations_of_fst_eq_some hu
      exact (List.sublist_cons_self _ _).subperm.trans hperm.symm.subperm

/-- A registration just made under a number no registration had can be taken back at once: it
hands back its session and leaves the registrations of before. -/
theorem Numbered.unlisten_listen (h : b.Numbered) (signal : Signal) (s : Session) :
    ((b.listen signal s).2.unlisten b.nextNumber).1 = some s ∧
      ((b.listen signal s).2.unlisten b.nextNumber).2.registrations.Perm b.registrations := by
  -- the new number is the only one of its list
  have hfind : (((b.listeners.lookup signal).getD []) ++ [(b.nextNumber, s)]).find?
      (·.1 == b.nextNumber) = some (b.nextNumber, s) := by
    rw [List.find?_append, List.find?_eq_none.mpr]
    · simp
    · intro p hp hpn
      have hsig : (⟨p.1, signal, p.2⟩ : Registration) ∈
          b.registrations.filter (·.signal == signal) := by
        rw [filter_signal_eq]
        exact List.mem_map_of_mem hp
      exact absurd (beq_iff_eq.mp hpn) (Nat.ne_of_lt (h.lt _ (List.mem_filter.mp hsig).1))
  have hfst : ((b.listen signal s).2.unlisten b.nextNumber).1 = some s := by
    simp only [Bus.unlisten, listen_signals, KeyMap.lookup_insert_self]
    simp only [Bus.listen, KeyMap.lookup_insert_self, hfind]
  refine ⟨hfst, ?_⟩
  obtain ⟨sig, hsig, hperm⟩ := unlisten_registrations_of_fst_eq_some hfst
  rw [listen_signals, KeyMap.lookup_insert_self, Option.some.injEq] at hsig
  subst hsig
  have hcons : (⟨b.nextNumber, signal, s⟩ ::
      ((b.listen signal s).2.unlisten b.nextNumber).2.registrations).Perm
        (⟨b.nextNumber, signal, s⟩ :: b.registrations) :=
    hperm.symm.trans ((b.listen_registrations_perm signal s).trans (List.perm_append_singleton _ _))
  exact hcons.cons_inv

/-- A registration made for a signal nothing waits for, under a number the signals map lacks,
and taken back at once leaves both maps as they were. -/
theorem unlisten_listen_of_fresh {signal : Signal} (hl : b.listeners.lookup signal = none)
    (hs : b.signals.lookup b.nextNumber = none) (s : Session) :
    (b.listen signal s).2.unlisten b.nextNumber =
      (some s, { b with nextNumber := b.nextNumber + 1 }) := by
  simp only [unlisten, listen, KeyMap.lookup_insert_self, hl, Option.getD_none, List.nil_append,
    List.find?_singleton, beq_self_eq_true, if_true]
  simp [KeyMap.erase_insert_of_lookup_eq_none hl, KeyMap.erase_insert_of_lookup_eq_none hs]

/-! ### The maps agree -/

/-- The two maps agree: every registration's number points at its signal in the signals map,
every number there is found in its signal's list, no list is empty, and the numbers are
distinct and below the next one to give. -/
structure Consistent (b : Bus) : Prop extends Numbered b where
  signalled : ∀ r ∈ b.registrations, b.signals.lookup r.number = some r.signal
  listed : ∀ n sig, b.signals.lookup n = some sig → ∃ s, ⟨n, sig, s⟩ ∈ b.registrations
  nonempty : ∀ e ∈ b.listeners.entries, e.2 ≠ []

theorem consistent_empty : Bus.empty.Consistent where
  nodup := List.nodup_nil
  lt _ hr := absurd hr List.not_mem_nil
  signalled _ hr := absurd hr List.not_mem_nil
  listed _ _ hs := by simp [Bus.empty] at hs
  nonempty _ he := absurd he List.not_mem_nil

/-- The agreement reads only the two maps and the next number. -/
theorem Consistent.congr {b' : Bus} (h : b.Consistent) (hl : b'.listeners = b.listeners)
    (hs : b'.signals = b.signals) (hn : b.nextNumber ≤ b'.nextNumber) : b'.Consistent := by
  have hr : b'.registrations = b.registrations := by rw [registrations_eq, registrations_eq, hl]
  exact
    { toNumbered := h.toNumbered.subperm (hr ▸ List.Subperm.refl _) hn
      signalled := by rw [hr, hs]; exact h.signalled
      listed := by rw [hr, hs]; exact h.listed
      nonempty := by rw [hl]; exact h.nonempty }

/-- Registering keeps the agreement: the new number is in neither map yet. -/
theorem Consistent.listen (h : b.Consistent) (signal : Signal) (s : Session) :
    (b.listen signal s).2.Consistent := by
  have hperm := b.listen_registrations_perm signal s
  have hfresh : ∀ r ∈ b.registrations, r.number ≠ b.nextNumber :=
    fun r hr => Nat.ne_of_lt (h.lt r hr)
  refine ⟨h.toNumbered.listen signal s, ?_, ?_, ?_⟩
  · intro r hr
    rw [hperm.mem_iff, List.mem_append, List.mem_singleton] at hr
    rw [listen_signals, KeyMap.lookup_insert]
    rcases hr with hr | rfl
    · rw [if_neg (hfresh r hr)]
      exact h.signalled r hr
    · rw [if_pos rfl]
  · intro n sig hn
    rw [listen_signals, KeyMap.lookup_insert] at hn
    split at hn
    · next he =>
        cases hn
        subst he
        exact ⟨s, hperm.mem_iff.mpr (List.mem_append_right _ (List.mem_singleton_self _))⟩
    · obtain ⟨s', hs'⟩ := h.listed n sig hn
      exact ⟨s', hperm.mem_iff.mpr (List.mem_append_left _ hs')⟩
  · -- the signal's list gains the new number, so it is not empty
    exact KeyMap.forall_mem_insert h.nonempty (by simp)

/-- Under the agreement, a number is in a signal's list exactly when a registration of that
signal has it. -/
theorem any_listed_iff (b : Bus) (signal : Signal) (n : Nat) :
    ((b.listeners.lookup signal).getD []).any (·.1 == n) = true ↔
      ∃ s, ⟨n, signal, s⟩ ∈ b.registrations := by
  rw [List.any_eq_true]
  constructor
  · rintro ⟨p, hp, hpn⟩
    have hmem : (⟨p.1, signal, p.2⟩ : Registration) ∈
        b.registrations.filter (·.signal == signal) := by
      rw [filter_signal_eq]
      exact List.mem_map_of_mem hp
    rw [← beq_iff_eq.mp hpn]
    exact ⟨p.2, (List.mem_filter.mp hmem).1⟩
  · rintro ⟨s, hs⟩
    have hmem : (⟨n, signal, s⟩ : Registration) ∈ b.registrations.filter (·.signal == signal) :=
      List.mem_filter.mpr ⟨hs, beq_self_eq_true _⟩
    rw [filter_signal_eq] at hmem
    obtain ⟨p, hp, hpr⟩ := List.mem_map.mp hmem
    simp only [Registration.mk.injEq] at hpr
    exact ⟨p, hp, beq_iff_eq.mpr hpr.1⟩

/-- Handing out a signal keeps the agreement: the numbers leaving the signals map are exactly
those of the registrations leaving the listeners map. -/
theorem Consistent.take (h : b.Consistent) (signal : Signal) : (b.take signal).2.Consistent := by
  have hsignals : ∀ n, (b.take signal).2.signals.lookup n =
      if ((b.listeners.lookup signal).getD []).any (·.1 == n) then none else b.signals.lookup n :=
    lookup_foldl_erase _ _
  refine ⟨h.toNumbered.take signal, ?_, ?_, ?_⟩
  · intro r hr
    rw [take_registrations, List.mem_filter] at hr
    obtain ⟨hr, hne⟩ := hr
    rw [hsignals, if_neg, h.signalled r hr]
    rw [any_listed_iff]
    rintro ⟨s, hs⟩
    -- the number would wait for the signal handed out as well as for its own
    have hsame := h.signalled _ hs
    rw [h.signalled r hr, Option.some.injEq] at hsame
    exact absurd hsame (by simpa using hne)
  · intro n sig hn
    rw [hsignals] at hn
    split at hn
    · cases hn
    · next hany =>
        obtain ⟨s, hs⟩ := h.listed n sig hn
        refine ⟨s, ?_⟩
        rw [take_registrations, List.mem_filter]
        refine ⟨hs, bne_iff_ne.mpr fun hsig => hany ?_⟩
        rw [any_listed_iff]
        exact ⟨s, hsig ▸ hs⟩
  · exact KeyMap.forall_mem_erase h.nonempty signal

/-- Under the agreement, taking a number back hands something back exactly when the number
waits: the exits that hand nothing back once the number is found are never taken. -/
theorem Consistent.unlisten_fst_isSome (h : b.Consistent) (n : Nat) :
    (b.unlisten n).1.isSome = b.isListening n := by
  unfold unlisten isListening
  cases hl : b.signals.lookup n with
  | none => rfl
  | some sig =>
      obtain ⟨s, hs⟩ := h.listed n sig hl
      obtain ⟨regs, hr, hmem⟩ := mem_registrations.mp hs
      dsimp only
      rw [hr]
      dsimp only
      cases hf : regs.find? (·.1 == n) with
      | none => exact absurd (List.find?_eq_none.mp hf _ hmem) (by simp)
      | some p => rfl

/-- Taking a number back keeps the agreement. -/
theorem Consistent.unlisten (h : b.Consistent) (n : Nat) : (b.unlisten n).2.Consistent := by
  rcases unlisten_cases b n with hu | ⟨sig, regs, s, -, -, -, hu⟩
  · -- nothing handed back: the number did not wait, so the bus is as it was
    have hnot : b.isListening n = false := by rw [← h.unlisten_fst_isSome, hu]; rfl
    have hnone : b.signals.lookup n = none := by
      simpa [isListening] using hnot
    rw [hu, KeyMap.erase_of_lookup_eq_none hnone]
    exact h
  · have hsome : (b.unlisten n).1 = some s := by rw [hu]
    obtain ⟨sig', -, hperm⟩ := unlisten_registrations_of_fst_eq_some hsome
    -- the number handed back is no other registration's
    have hnd := (hperm.map (·.number)).nodup_iff.mp h.nodup
    rw [List.map_cons, List.nodup_cons] at hnd
    have hne : ∀ r ∈ (b.unlisten n).2.registrations, r.number ≠ n :=
      fun r hr hrn => hnd.1 (List.mem_map.mpr ⟨r, hr, hrn⟩)
    refine ⟨h.toNumbered.unlisten n, ?_, ?_, ?_⟩
    · intro r hr
      rw [unlisten_signals, KeyMap.lookup_erase_ne _ (hne r hr)]
      exact h.signalled r (hperm.mem_iff.mpr (List.mem_cons_of_mem _ hr))
    · intro m sig'' hm
      rw [unlisten_signals, KeyMap.lookup_erase] at hm
      split at hm
      · cases hm
      · next hmn =>
          obtain ⟨s', hs'⟩ := h.listed m sig'' hm
          rcases List.mem_cons.mp (hperm.mem_iff.mp hs') with heq | hin
          · exact absurd (congrArg Registration.number heq) hmn
          · exact ⟨s', hin⟩
    · -- the signal's list loses the number, and leaves the map when nothing is left of it
      rw [hu]
      change ∀ e ∈ (if (regs.eraseP (·.1 == n)).isEmpty then b.listeners.erase sig
        else b.listeners.insert sig (regs.eraseP (·.1 == n))).entries, e.2 ≠ []
      split
      · exact KeyMap.forall_mem_erase h.nonempty sig
      · next hrest =>
          exact KeyMap.forall_mem_insert h.nonempty fun hnil => hrest (List.isEmpty_iff.mpr hnil)

/-- Under the agreement, a number waits exactly when a registration has it. -/
theorem Consistent.isListening_iff (h : b.Consistent) (n : Nat) :
    b.isListening n = true ↔ ∃ r ∈ b.registrations, r.number = n := by
  unfold isListening
  rw [Option.isSome_iff_exists]
  constructor
  · rintro ⟨sig, hs⟩
    obtain ⟨s, hr⟩ := h.listed n sig hs
    exact ⟨_, hr, rfl⟩
  · rintro ⟨r, hr, rfl⟩
    exact ⟨r.signal, h.signalled r hr⟩

/-- Under the agreement, the signals map has one key per registration. -/
theorem Consistent.listenerCount_eq (h : b.Consistent) :
    b.listenerCount = b.registrations.length := by
  have hperm : b.signals.entries.Perm (b.registrations.map fun r => (r.number, r.signal)) := by
    refine (List.perm_ext_iff_of_nodup (b.signals.nodup.of_map _) ?_).mpr fun p => ?_
    · refine List.Nodup.of_map Prod.fst ?_
      rw [List.map_map]
      exact h.nodup
    · obtain ⟨n, sig⟩ := p
      rw [← KeyMap.lookup_eq_some_iff]
      constructor
      · intro hs
        obtain ⟨s, hr⟩ := h.listed n sig hs
        exact List.mem_map.mpr ⟨_, hr, rfl⟩
      · intro hp
        obtain ⟨r, hr, hrp⟩ := List.mem_map.mp hp
        cases hrp
        exact h.signalled r hr
  unfold listenerCount KeyMap.size
  rw [hperm.length_eq, List.length_map]

/-- A number taken back no longer waits. -/
@[simp] theorem isListening_unlisten (b : Bus) (n : Nat) :
    (b.unlisten n).2.isListening n = false := by
  simp [isListening]

/-- Under the agreement, taking a number back hands back the session of the registration under
it. -/
theorem Consistent.unlisten_fst (h : b.Consistent) (n : Nat) :
    (b.unlisten n).1 = (b.registrations.find? (·.number == n)).map (·.session) := by
  cases hu : (b.unlisten n).1 with
  | none =>
      have hnot : b.isListening n = false := by rw [← h.unlisten_fst_isSome, hu]; rfl
      refine (Option.map_eq_none_iff.mpr (List.find?_eq_none.mpr fun r hr hrn => ?_)).symm
      have hwait := (h.isListening_iff n).mpr ⟨r, hr, beq_iff_eq.mp hrn⟩
      rw [hnot] at hwait
      cases hwait
  | some s =>
      obtain ⟨sig, -, hperm⟩ := unlisten_registrations_of_fst_eq_some hu
      have hmem : (⟨n, sig, s⟩ : Registration) ∈ b.registrations :=
        hperm.mem_iff.mpr List.mem_cons_self
      have hfound : (b.registrations.find? (·.number == n)).isSome :=
        List.find?_isSome.mpr ⟨_, hmem, by simp⟩
      obtain ⟨r, hr⟩ := Option.isSome_iff_exists.mp hfound
      -- the registration found is the one handed back: numbers are distinct
      have hrn : r.number = n := by simpa using List.find?_some hr
      have hsame := List.inj_on_of_nodup_map h.nodup (List.mem_of_find?_eq_some hr) hmem hrn
      rw [hr, hsame]
      rfl

/-- Under the agreement, the next number is not in the signals map. -/
theorem Consistent.lookup_nextNumber (h : b.Consistent) : b.signals.lookup b.nextNumber = none := by
  cases hs : b.signals.lookup b.nextNumber with
  | none => rfl
  | some sig =>
      obtain ⟨s, hr⟩ := h.listed _ sig hs
      exact absurd (h.lt _ hr) (Nat.lt_irrefl _)

/-- A number in the signals map is found exactly once in its signal's list. -/
theorem Consistent.listed_once (h : b.Consistent) {n : Nat} {sig : Signal}
    (hs : b.signals.lookup n = some sig) :
    ∃ regs, b.listeners.lookup sig = some regs ∧ (regs.filter (·.1 == n)).length = 1 := by
  obtain ⟨s, hr⟩ := h.listed n sig hs
  obtain ⟨regs, hregs, hmem⟩ := mem_registrations.mp hr
  refine ⟨regs, hregs, ?_⟩
  -- the list's numbers are among the bus's, which are distinct
  have hsub : (regs.map fun p => (⟨p.1, sig, p.2⟩ : Registration)).Sublist b.registrations := by
    have hfilter := filter_signal_eq b sig
    rw [hregs, Option.getD_some] at hfilter
    rw [← hfilter]
    exact List.filter_sublist
  have hnd : (regs.map (·.1)).Nodup := by
    have hsubnd := (hsub.map (·.number)).nodup h.nodup
    rwa [List.map_map] at hsubnd
  have hcount := List.count_eq_one_of_mem hnd (List.mem_map_of_mem hmem)
  rw [List.count, List.countP_map] at hcount
  rw [← List.countP_eq_length_filter]
  exact hcount

/-- Every number in a signal's list points back at the signal. -/
theorem Consistent.points_back (h : b.Consistent) {sig : Signal} {regs : List (Nat × Session)}
    (hr : b.listeners.lookup sig = some regs) {p : Nat × Session} (hp : p ∈ regs) :
    b.signals.lookup p.1 = some sig :=
  h.signalled ⟨p.1, sig, p.2⟩ (mem_registrations.mpr ⟨regs, hr, hp⟩)

/-- No signal's list is empty. -/
theorem Consistent.list_ne_nil (h : b.Consistent) {sig : Signal} {regs : List (Nat × Session)}
    (hr : b.listeners.lookup sig = some regs) : regs ≠ [] :=
  h.nonempty (sig, regs) (KeyMap.lookup_eq_some_iff.mp hr)

end Bus

end Parley
