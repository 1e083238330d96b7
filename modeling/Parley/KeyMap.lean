/-!
# Maps whose keys occur once

A `KeyMap` is a finite map kept as a list of key-value pairs in which each key occurs once; the
type carries that fact. Setting a key removes its pair and puts the new one last, and erasing a
key removes its pair. What uses a map reads it through `lookup` and `size`; the order of the
pairs is never read.
-/

namespace Parley

/-- A finite map as a list of pairs, each key once. -/
structure KeyMap (κ ν : Type) where
  entries : List (κ × ν)
  nodup : (entries.map (·.1)).Nodup

namespace KeyMap

variable {κ ν : Type} [DecidableEq κ]

instance [DecidableEq ν] : DecidableEq (KeyMap κ ν) := fun a b =>
  decidable_of_iff (a.entries = b.entries) ⟨fun h => by cases a; cases b; cases h; rfl,
    fun h => h ▸ rfl⟩

/-- The map without keys. -/
def empty : KeyMap κ ν := ⟨[], List.nodup_nil⟩

/-- The value of a key. -/
def lookup (m : KeyMap κ ν) (k : κ) : Option ν := m.entries.lookup k

/-- The number of keys. -/
def size (m : KeyMap κ ν) : Nat := m.entries.length

theorem nodup_filter (m : KeyMap κ ν) (k : κ) :
    ((m.entries.filter (·.1 != k)).map (·.1)).Nodup :=
  ((List.filter_sublist).map _).nodup m.nodup

theorem nodup_filter_append (m : KeyMap κ ν) (k : κ) (v : ν) :
    ((m.entries.filter (·.1 != k) ++ [(k, v)]).map (·.1)).Nodup := by
  rw [List.map_append, List.map_singleton, List.nodup_append]
  refine ⟨m.nodup_filter k, List.nodup_cons.mpr ⟨List.not_mem_nil, List.nodup_nil⟩, ?_⟩
  intro a ha b hb hab
  rw [List.mem_singleton] at hb
  obtain ⟨p, hp, rfl⟩ := List.mem_map.mp ha
  have hne := (List.mem_filter.mp hp).2
  simp only [bne_iff_ne, ne_eq] at hne
  exact hne (hab.trans hb)

/-- Remove a key and its value. -/
def erase (m : KeyMap κ ν) (k : κ) : KeyMap κ ν := ⟨m.entries.filter (·.1 != k), m.nodup_filter k⟩

/-- Set the value of a key; its pair goes last. -/
def insert (m : KeyMap κ ν) (k : κ) (v : ν) : KeyMap κ ν :=
  ⟨m.entries.filter (·.1 != k) ++ [(k, v)], m.nodup_filter_append k v⟩

end KeyMap

end Parley
