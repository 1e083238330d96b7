import Mathlib
import Parley.KeyMap

/-!
# Looking keys up

What a map holds is what `lookup` says of it. A key's value is the value of the key's one pair;
erasing a key loses that key and no other, and setting a key gives it the new value and changes
no other. The pairs of one key, filtered out of the entries, are the pair of its value or
nothing, and what holds of every pair still holds after erasing a key or setting one to a value
it holds of.
-/

namespace Parley

namespace KeyMap

variable {κ ν : Type} [DecidableEq κ] {m : KeyMap κ ν} {k k' : κ} {v : ν}

omit [DecidableEq κ] in
theorem ext {a b : KeyMap κ ν} (h : a.entries = b.entries) : a = b := by
  cases a
  cases b
  cases h
  rfl

omit [DecidableEq κ] in
@[simp] theorem entries_empty : (empty : KeyMap κ ν).entries = [] := rfl

@[simp] theorem lookup_empty (k : κ) : (empty : KeyMap κ ν).lookup k = none := rfl

@[simp] theorem entries_erase (m : KeyMap κ ν) (k : κ) :
    (m.erase k).entries = m.entries.filter (·.1 != k) := rfl

@[simp] theorem entries_insert (m : KeyMap κ ν) (k : κ) (v : ν) :
    (m.insert k v).entries = m.entries.filter (·.1 != k) ++ [(k, v)] := rfl

omit [DecidableEq κ] in
/-- No pair before a key's pair has that key. -/
theorem key_ne_of_append {l₁ l₂ : List (κ × ν)} (h : m.entries = l₁ ++ (k, v) :: l₂) :
    (∀ p ∈ l₁, p.1 ≠ k) ∧ ∀ p ∈ l₂, p.1 ≠ k := by
  have hnd := m.nodup
  rw [h, List.map_append, List.map_cons, List.nodup_append, List.nodup_cons] at hnd
  obtain ⟨-, ⟨hk, -⟩, hdis⟩ := hnd
  refine ⟨fun p hp hpk => ?_, fun p hp hpk => hk (List.mem_map.mpr ⟨p, hp, hpk⟩)⟩
  exact hdis _ (List.mem_map.mpr ⟨p, hp, rfl⟩) _ List.mem_cons_self hpk

/-- A key's value is the value of its one pair. -/
theorem lookup_eq_some_iff : m.lookup k = some v ↔ (k, v) ∈ m.entries := by
  unfold lookup
  rw [List.lookup_eq_some_iff]
  constructor
  · rintro ⟨l₁, l₂, h, -⟩
    rw [h]
    exact List.mem_append_right _ List.mem_cons_self
  · intro hmem
    obtain ⟨l₁, l₂, hl⟩ := List.append_of_mem hmem
    refine ⟨l₁, l₂, hl, fun p hp => ?_⟩
    exact bne_iff_ne.mpr (Ne.symm ((key_ne_of_append hl).1 p hp))

theorem lookup_eq_none_iff : m.lookup k = none ↔ ∀ p ∈ m.entries, p.1 ≠ k := by
  unfold lookup
  rw [List.lookup_eq_none_iff]
  constructor
  · intro h p hp hpk
    exact bne_iff_ne.mp (h p hp) hpk.symm
  · intro h p hp
    exact bne_iff_ne.mpr fun hkp => h p hp hkp.symm

theorem lookup_erase (m : KeyMap κ ν) (k k' : κ) :
    (m.erase k).lookup k' = if k' = k then none else m.lookup k' := by
  split
  · next h =>
      subst h
      exact lookup_eq_none_iff.mpr fun p hp => by simpa using (List.mem_filter.mp hp).2
  · next h =>
      apply Option.ext
      intro v
      rw [lookup_eq_some_iff, lookup_eq_some_iff, entries_erase, List.mem_filter]
      simp [h]

/-- Erasing a missing key changes nothing. -/
theorem erase_of_lookup_eq_none (h : m.lookup k = none) : m.erase k = m := by
  apply ext
  rw [entries_erase, List.filter_eq_self]
  intro p hp
  exact bne_iff_ne.mpr (lookup_eq_none_iff.mp h p hp)

@[simp] theorem lookup_erase_self (m : KeyMap κ ν) (k : κ) : (m.erase k).lookup k = none := by
  rw [lookup_erase, if_pos rfl]

theorem lookup_erase_ne (m : KeyMap κ ν) (h : k' ≠ k) : (m.erase k).lookup k' = m.lookup k' := by
  rw [lookup_erase, if_neg h]

theorem lookup_insert (m : KeyMap κ ν) (k : κ) (v : ν) (k' : κ) :
    (m.insert k v).lookup k' = if k' = k then some v else m.lookup k' := by
  apply Option.ext
  intro w
  rw [lookup_eq_some_iff, entries_insert, List.mem_append, List.mem_filter, List.mem_singleton]
  split
  · next h =>
      subst h
      simp only [bne_self_eq_false, Bool.false_eq_true, and_false, false_or, Prod.mk.injEq,
        true_and, Option.some.injEq]
      exact eq_comm
  · next h =>
      rw [lookup_eq_some_iff]
      simp [h]

@[simp] theorem lookup_insert_self (m : KeyMap κ ν) (k : κ) (v : ν) :
    (m.insert k v).lookup k = some v := by
  rw [lookup_insert, if_pos rfl]

/-- The pairs of one key are the pair of its value, or none. -/
theorem filter_key_eq (m : KeyMap κ ν) (k : κ) :
    m.entries.filter (·.1 == k) = ((m.lookup k).map fun v => (k, v)).toList := by
  cases h : m.lookup k with
  | none =>
      rw [lookup_eq_none_iff] at h
      exact List.filter_eq_nil_iff.mpr fun p hp => by simpa using h p hp
  | some v =>
      obtain ⟨l₁, l₂, hl⟩ := List.append_of_mem (lookup_eq_some_iff.mp h)
      obtain ⟨h₁, h₂⟩ := key_ne_of_append hl
      rw [hl, List.filter_append, List.filter_cons_of_pos (by simp),
        List.filter_eq_nil_iff.mpr fun p hp => by simpa using h₁ p hp,
        List.filter_eq_nil_iff.mpr fun p hp => by simpa using h₂ p hp]
      rfl

/-- What holds of every pair still holds after erasing a key. -/
theorem forall_mem_erase {P : κ × ν → Prop} (h : ∀ p ∈ m.entries, P p) (k : κ) :
    ∀ p ∈ (m.erase k).entries, P p :=
  fun p hp => h p (List.mem_filter.mp hp).1

/-- What holds of every pair, and of the new pair, holds after setting a key. -/
theorem forall_mem_insert {P : κ × ν → Prop} (h : ∀ p ∈ m.entries, P p) (hkv : P (k, v)) :
    ∀ p ∈ (m.insert k v).entries, P p := by
  intro p hp
  rw [entries_insert, List.mem_append, List.mem_singleton] at hp
  rcases hp with hp | rfl
  · exact h p (List.mem_filter.mp hp).1
  · exact hkv

end KeyMap

end Parley
