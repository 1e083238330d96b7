import Mathlib
import Parley.Record.Json

/-!
# A cell from its JSON value

A cell's JSON value turns back into the cell: booleans, strings and doubles are their own
values, an integer is written as an unsigned number when it is not negative and as a negative
number otherwise, and both fit the first kind that is tried for them. A record is read from its
fields through `Record.ofList`, which sorts them; the cell comes back unchanged when its keys
already increase at every depth. Main statement (`ofJson?_toJson`).
-/

namespace Parley

namespace Cell

mutual

/-- The doubles of a cell, at every depth. -/
def floats : Cell → List Binary64
  | .float x => [x]
  | .record entries => entriesFloats entries
  | _ => []

/-- The doubles of record entries, at every depth. -/
def entriesFloats : List (String × Cell) → List Binary64
  | [] => []
  | (_, c) :: rest => c.floats ++ entriesFloats rest

end

mutual

/-- The cell with every double `x` in it replaced by `f x`. -/
def mapFloats (f : Binary64 → Binary64) : Cell → Cell
  | .float x => .float (f x)
  | .record entries => .record (entriesMapFloats f entries)
  | c => c

/-- Record entries with every double `x` in them replaced by `f x`. -/
def entriesMapFloats (f : Binary64 → Binary64) : List (String × Cell) → List (String × Cell)
  | [] => []
  | (k, c) :: rest => (k, c.mapFloats f) :: entriesMapFloats f rest

end

mutual

/-- How many levels of records a cell opens: none for a value, one more than its deepest entry
for a record. -/
def depth : Cell → Nat
  | .record entries => entriesDepth entries + 1
  | _ => 0

/-- How many levels of records the deepest of some entries opens. -/
def entriesDepth : List (String × Cell) → Nat
  | [] => 0
  | (_, c) :: rest => max c.depth (entriesDepth rest)

end

/-- Keys in strictly increasing order. -/
def Ascending (entries : List (String × Cell)) : Prop := entries.Pairwise fun a b => a.1 < b.1

instance (entries : List (String × Cell)) : Decidable (Ascending entries) :=
  inferInstanceAs (Decidable (List.Pairwise _ _))

mutual

/-- Every record in the cell has its keys in strictly increasing order. -/
def Ordered : Cell → Prop
  | .record entries => Ascending entries ∧ EntriesOrdered entries
  | _ => True

/-- Every record in the cells of some entries has its keys in strictly increasing order. -/
def EntriesOrdered : List (String × Cell) → Prop
  | [] => True
  | (_, c) :: rest => c.Ordered ∧ EntriesOrdered rest

end

mutual

/-- Whether every record in a cell has its keys in order, decided record by record. -/
def decOrdered : (c : Cell) → Decidable c.Ordered
  | .record entries =>
      haveI := decEntriesOrdered entries
      inferInstanceAs (Decidable (Ascending entries ∧ EntriesOrdered entries))
  | .bool _ | .integer _ | .float _ | .string _ => isTrue trivial

/-- Whether every record in the cells of some entries has its keys in order. -/
def decEntriesOrdered : (entries : List (String × Cell)) → Decidable (EntriesOrdered entries)
  | [] => isTrue trivial
  | (_, c) :: rest =>
      haveI := decOrdered c
      haveI := decEntriesOrdered rest
      inferInstanceAs (Decidable (c.Ordered ∧ EntriesOrdered rest))

end

instance : DecidablePred Ordered := decOrdered

theorem entriesMapFloats_eq_map (f : Binary64 → Binary64) (entries : List (String × Cell)) :
    entriesMapFloats f entries = entries.map fun e => (e.1, e.2.mapFloats f) := by
  induction entries with
  | nil => rfl
  | cons e rest ih => rw [entriesMapFloats, ih]; rfl

theorem ascending_entriesMapFloats {f : Binary64 → Binary64} {entries : List (String × Cell)}
    (h : Ascending entries) : Ascending (entriesMapFloats f entries) := by
  rw [entriesMapFloats_eq_map]
  exact List.Pairwise.map _ (fun _ _ hab => hab) h

mutual

/-- Replacing doubles keeps every key where it was. -/
theorem ordered_mapFloats (f : Binary64 → Binary64) : ∀ c : Cell, c.Ordered → (c.mapFloats f).Ordered
  | .record entries, ⟨hasc, hord⟩ =>
      ⟨ascending_entriesMapFloats hasc, entriesOrdered_mapFloats f entries hord⟩
  | .bool _, _ | .integer _, _ | .float _, _ | .string _, _ => trivial

theorem entriesOrdered_mapFloats (f : Binary64 → Binary64) :
    ∀ entries : List (String × Cell), EntriesOrdered entries →
      EntriesOrdered (entriesMapFloats f entries)
  | [], _ => trivial
  | (_, c) :: rest, ⟨hc, hrest⟩ => ⟨ordered_mapFloats f c hc, entriesOrdered_mapFloats f rest hrest⟩

end

mutual

/-- Replacing doubles leaves a cell as it was exactly when it leaves each of its doubles. -/
theorem mapFloats_eq_self_iff (f : Binary64 → Binary64) :
    ∀ c : Cell, c.mapFloats f = c ↔ ∀ x ∈ c.floats, f x = x
  | .float x => by simp [mapFloats, floats]
  | .record entries => by
      rw [mapFloats, floats, record.injEq, entriesMapFloats_eq_self_iff f entries]
  | .bool _ | .integer _ | .string _ => by simp [mapFloats, floats]

theorem entriesMapFloats_eq_self_iff (f : Binary64 → Binary64) :
    ∀ entries : List (String × Cell),
      entriesMapFloats f entries = entries ↔ ∀ x ∈ entriesFloats entries, f x = x
  | [] => by simp [entriesMapFloats, entriesFloats]
  | (k, c) :: rest => by
      rw [entriesMapFloats, entriesFloats, List.cons.injEq, Prod.mk.injEq,
        mapFloats_eq_self_iff f c, entriesMapFloats_eq_self_iff f rest, List.forall_mem_append]
      simp

end

end Cell

namespace Record

/-- The doubles of a record, at every depth. -/
def floats (r : Record) : List Binary64 := Cell.entriesFloats r.entries

/-- The record with every double `x` in it replaced by `f x`. -/
def mapFloats (f : Binary64 → Binary64) (r : Record) : Record := ⟨Cell.entriesMapFloats f r.entries⟩

/-- How many levels of records a record opens, itself included. -/
def depth (r : Record) : Nat := (Cell.record r.entries).depth

/-- Every record in the record, itself included, has its keys in strictly increasing order. -/
def Ordered (r : Record) : Prop := (Cell.record r.entries).Ordered

instance : DecidablePred Ordered := fun r => Cell.decOrdered (.record r.entries)

theorem mapFloats_eq_self_iff (f : Binary64 → Binary64) (r : Record) :
    r.mapFloats f = r ↔ ∀ x ∈ r.floats, f x = x := by
  obtain ⟨entries⟩ := r
  rw [mapFloats, floats, mk.injEq, Cell.entriesMapFloats_eq_self_iff]

end Record

/-! ## Records from entries in order -/

namespace Record

/-- A key above every key present goes last. -/
theorem insertEntry_of_lt {key : String} (cell : Cell) :
    ∀ {l : List (String × Cell)}, (∀ p ∈ l, p.1 < key) → insertEntry key cell l = l ++ [(key, cell)]
  | [], _ => rfl
  | (k, c) :: rest, h => by
      have hk : k < key := h (k, c) List.mem_cons_self
      rw [insertEntry, if_neg (lt_asymm hk), if_neg (ne_of_gt hk),
        insertEntry_of_lt cell fun p hp => h p (List.mem_cons_of_mem _ hp)]
      rfl

/-- Storing entries whose keys increase, each above the keys already present, appends them. -/
theorem foldl_put_of_ascending {f : Record → String × Cell → Record}
    (hf : ∀ r e, f r e = r.put e.1 e.2) :
    ∀ (entries acc : List (String × Cell)), Cell.Ascending (acc ++ entries) →
      entries.foldl f ⟨acc⟩ = ⟨acc ++ entries⟩
  | [], acc, _ => by rw [List.foldl_nil, List.append_nil]
  | (k, c) :: rest, acc, h => by
      have hlt : ∀ p ∈ acc, p.1 < k := fun p hp =>
        (List.pairwise_append.mp h).2.2 p hp (k, c) List.mem_cons_self
      have hput : f ⟨acc⟩ (k, c) = ⟨acc ++ [(k, c)]⟩ := by
        rw [hf, put, insertEntry_of_lt c hlt]
      rw [List.foldl_cons, hput, foldl_put_of_ascending hf rest _ (by rwa [List.append_assoc]),
        List.append_assoc, List.singleton_append]

/-- Entries whose keys increase make the record of exactly those entries. -/
theorem ofList_of_ascending {entries : List (String × Cell)} (h : Cell.Ascending entries) :
    ofList entries = ⟨entries⟩ :=
  foldl_put_of_ascending (fun _ _ => rfl) entries [] h

end Record

/-! ## Cells from their JSON values -/

namespace Cell

/-- The JSON value of an integer is read back as the integer, from either kind of number. -/
theorem ofJson?_int (n : Int64) : ofJson? (.int n.toInt) = some (.integer n) := by
  have hlo := n.le_toInt
  have hhi := n.toInt_lt
  unfold Json.int Number.ofInt
  split
  · have hle : n.toInt.toNat ≤ maxInteger := by
      simp only [maxInteger, Nat.pow_eq]
      omega
    rw [ofJson?, if_pos hle]
    congr 2
    apply Int64.toInt_inj.mp
    rw [Int64.toInt_ofNat_of_lt (by omega)]
    omega
  · rw [ofJson?, Int64.ofInt_toInt]

mutual

/-- A cell whose records have their keys in order is read back from its JSON value. -/
theorem ofJson?_toJson : ∀ c : Cell, c.Ordered → ofJson? c.toJson = some c
  | .bool _, _ => rfl
  | .integer n, _ => ofJson?_int n
  | .float _, _ => rfl
  | .string _, _ => rfl
  | .record entries, ⟨hasc, hord⟩ => by
      rw [toJson, ofJson?, entriesOfJson?_entriesToJson entries hord, Option.map_some,
        Record.ofList_of_ascending hasc]

theorem entriesOfJson?_entriesToJson :
    ∀ entries : List (String × Cell), EntriesOrdered entries →
      entriesOfJson? (entriesToJson entries) = some entries
  | [], _ => rfl
  | (k, c) :: rest, ⟨hc, hrest⟩ => by
      rw [entriesToJson, entriesOfJson?, ofJson?_toJson c hc, entriesOfJson?_entriesToJson rest hrest]
      rfl

end

end Cell

end Parley
