import Mathlib
import Parley.Record.Basic

/-!
# Reading back what a record was given

A record keeps its entries sorted, but a lookup does not care where an entry stands: after a
cell is stored under a key, that key reads the cell and every other key reads what it read
before. Each typed reader then gives back what its writer stored: a string or a nested record
as it was, a natural number that fits the reader's width unchanged, and a single as the double
of its value rounded back to a single.
-/

namespace Parley

namespace Except

variable {ε α β : Type} {x : Except ε α}

theorem bind_eq_ok_iff {f : α → Except ε β} {b : β} :
    x >>= f = .ok b ↔ ∃ a, x = .ok a ∧ f a = .ok b := by
  cases x <;> simp [bind, Except.bind]

theorem bind_eq_error_iff {f : α → Except ε β} {e : ε} :
    x >>= f = .error e ↔ x = .error e ∨ ∃ a, x = .ok a ∧ f a = .error e := by
  cases x <;> simp [bind, Except.bind]

theorem map_eq_ok_iff {f : α → β} {b : β} : x.map f = .ok b ↔ ∃ a, x = .ok a ∧ f a = b := by
  cases x <;> simp [Except.map]

theorem map_eq_error_iff {f : α → β} {e : ε} : x.map f = .error e ↔ x = .error e := by
  cases x <;> simp [Except.map]

/-- A guarded value succeeds exactly when its guard holds. -/
theorem ite_pure_throw_eq_ok_iff {c : Prop} [Decidable c] {a b : α} {err : ε} :
    (if c then pure a else throw err : Except ε α) = .ok b ↔ c ∧ a = b := by
  by_cases hc : c <;> simp [hc, pure, Except.pure, throw, throwThe, MonadExceptOf.throw]

/-- A guarded value fails, with the guard's error, exactly when its guard fails. -/
theorem ite_pure_throw_eq_error_iff {c : Prop} [Decidable c] {a : α} {err e : ε} :
    (if c then pure a else throw err : Except ε α) = .error e ↔ ¬c ∧ e = err := by
  by_cases hc : c <;> simp [hc, pure, Except.pure, throw, throwThe, MonadExceptOf.throw, eq_comm]

end Except

namespace Record

/-- The lookup in a list of entries, read as a choice on its first key. -/
theorem lookup_cons_eq (k k' : String) (c : Cell) (l : List (String × Cell)) :
    ((k', c) :: l).lookup k = if k = k' then some c else l.lookup k := by
  rw [List.lookup_cons]
  by_cases h : k = k'
  · rw [if_pos h, h, beq_self_eq_true]
  · rw [if_neg h, beq_false_of_ne h]

/-- Inserting an entry changes the lookup of its key only, wherever the entry is placed. -/
theorem lookup_insertEntry (key : String) (cell : Cell) (l : List (String × Cell)) (k : String) :
    (insertEntry key cell l).lookup k = if k = key then some cell else l.lookup k := by
  induction l with
  | nil => simp only [insertEntry, lookup_cons_eq]
  | cons entry rest ih =>
      obtain ⟨k', c⟩ := entry
      unfold insertEntry
      by_cases hlt : key < k'
      · -- the new entry goes in front
        rw [if_pos hlt]
        simp only [lookup_cons_eq]
      · by_cases heq : key = k'
        · -- the new entry replaces the old one of its key
          subst heq
          rw [if_neg hlt, if_pos rfl]
          by_cases hk : k = key <;> simp only [lookup_cons_eq, hk, if_true, if_false]
        · -- the new entry goes further in, past an entry of another key
          rw [if_neg hlt, if_neg heq, lookup_cons_eq, lookup_cons_eq, ih]
          by_cases hk : k = k'
          · subst hk
            rw [if_pos rfl, if_neg (Ne.symm heq), if_pos rfl]
          · rw [if_neg hk, if_neg hk]

theorem get?_put (r : Record) (key : String) (cell : Cell) (k : String) :
    (r.put key cell).get? k = if k = key then some cell else r.get? k :=
  lookup_insertEntry key cell r.entries k

/-- Storing under a key the cell it already holds changes no lookup. -/
theorem get?_put_of_get? {r : Record} {key : String} {cell : Cell} (h : r.get? key = some cell)
    (k : String) : (r.put key cell).get? k = r.get? k := by
  rw [get?_put]
  split
  · rename_i hk
    rw [hk, h]
  · rfl

@[simp] theorem get?_empty (k : String) : empty.get? k = none := rfl

/-! ## Typed readers on a stored cell -/

section Readers

variable {r : Record} {k : String}

theorem require_of_get? {c : Cell} (h : r.get? k = some c) : r.require k = .ok c := by
  simp [require, h]

theorem getString_of_get? {s : String} (h : r.get? k = some (.string s)) :
    r.getString k = .ok s := by
  simp [getString, require_of_get? h, bind, Except.bind, pure, Except.pure]

theorem getSingle_of_get? {x : Binary64} (h : r.get? k = some (.float x)) :
    r.getSingle k = .ok x.toBinary32 := by
  simp [getSingle, require_of_get? h, bind, Except.bind, pure, Except.pure]

theorem getRecord?_of_get? {entries : List (String × Cell)}
    (h : r.get? k = some (.record entries)) : r.getRecord? k = .ok (some ⟨entries⟩) := by
  simp [getRecord?, h, pure, Except.pure]

theorem getRecord?_of_get?_none (h : r.get? k = none) : r.getRecord? k = .ok none := by
  simp [getRecord?, h, pure, Except.pure]

/-- A natural number stored as an integer reads back through a range holding it. -/
theorem getRanged_of_get? {n : Nat} (h : r.get? k = some (.integer (Int64.ofNat n)))
    (lo hi : Int) (name : String) (hlo : lo ≤ n) (hhi : n ≤ hi) (hn : n < 2 ^ 63) :
    r.getRanged k lo hi name = .ok n := by
  have hint : (Int64.ofNat n).toInt = n := Int64.toInt_ofNat_of_lt hn
  simp [getRanged, getInteger, require_of_get? h, hint, hlo, hhi, bind, Except.bind, pure,
    Except.pure]

theorem getUInt16_of_get? {n : Nat} (h : r.get? k = some (.integer (Int64.ofNat n)))
    (hn : n < 2 ^ 16) : r.getUInt16 k = .ok (UInt16.ofNat n) := by
  have hr := getRanged_of_get? h 0 (Nat.pow 2 16 - 1) "u16" (by omega)
    (by simp only [Nat.pow_eq]; omega) (by omega)
  rw [getUInt16, hr]
  rfl

theorem getUInt32_of_get? {n : Nat} (h : r.get? k = some (.integer (Int64.ofNat n)))
    (hn : n < 2 ^ 32) : r.getUInt32 k = .ok (UInt32.ofNat n) := by
  have hr := getRanged_of_get? h 0 (Nat.pow 2 32 - 1) "u32" (by omega)
    (by simp only [Nat.pow_eq]; omega) (by omega)
  rw [getUInt32, hr]
  rfl

end Readers

/-! ## What a typed read gives on any record -/

/-- Reading `k` as a `kind` fails with `e`: the key is missing, or it holds a cell of another
kind. -/
def Unreadable (r : Record) (k : String) (kind : Cell.Kind) (e : Error) : Prop :=
  (r.get? k = none ∧ e = .missing k) ∨
    ∃ c, r.get? k = some c ∧ c.kind ≠ kind ∧ e = .typeMismatch k c.kind kind

/-- The key holds an integer whose value satisfies `P`. -/
def IntegerIn (r : Record) (k : String) (P : Int → Prop) : Prop :=
  ∃ n : Int64, r.get? k = some (.integer n) ∧ P n.toInt

/-- The key holds an integer whose value fails `P`, and `e` reports it against the range
`name`. -/
def Misses (r : Record) (k : String) (P : Int → Prop) (name : String) (e : Error) : Prop :=
  ∃ n : Int64, r.get? k = some (.integer n) ∧ ¬P n.toInt ∧ e = .outOfRange k n.toInt name

section Outcomes

variable {r : Record} {k : String}

/-- The cell under the key decides how a read of it fails. -/
theorem Unreadable.unique {kind : Cell.Kind} {e e' : Error} (h : r.Unreadable k kind e)
    (h' : r.Unreadable k kind e') : e = e' := by
  rcases h with ⟨h1, rfl⟩ | ⟨c, h1, -, rfl⟩ <;> rcases h' with ⟨h2, rfl⟩ | ⟨c', h2, -, rfl⟩
  · rfl
  · rw [h1] at h2
    cases h2
  · rw [h1] at h2
    cases h2
  · rw [h1, Option.some.injEq] at h2
    rw [h2]

/-- A key holding an integer is readable as one. -/
theorem Unreadable.not_integer {e : Error} {n : Int64} (h : r.Unreadable k .integer e)
    (hn : r.get? k = some (.integer n)) : False := by
  rcases h with ⟨hnone, -⟩ | ⟨c, hc, hkind, -⟩
  · rw [hn] at hnone
    cases hnone
  · rw [hn, Option.some.injEq] at hc
    subst hc
    exact hkind rfl

theorem getString_eq_ok_iff {s : String} : r.getString k = .ok s ↔ r.get? k = some (.string s) := by
  unfold getString require
  cases h : r.get? k with
  | none => simp [bind, Except.bind]
  | some c =>
      cases c <;> simp [bind, Except.bind, pure, Except.pure, throw, throwThe, MonadExceptOf.throw]

theorem getString_eq_error_iff {e : Error} : r.getString k = .error e ↔ r.Unreadable k .string e := by
  unfold getString require Unreadable
  cases h : r.get? k with
  | none => simp [bind, Except.bind, eq_comm]
  | some c =>
      cases c <;> simp [bind, Except.bind, pure, Except.pure, throw, throwThe,
        MonadExceptOf.throw, Cell.kind, eq_comm]

theorem getInteger_eq_ok_iff {n : Int64} :
    r.getInteger k = .ok n ↔ r.get? k = some (.integer n) := by
  unfold getInteger require
  cases h : r.get? k with
  | none => simp [bind, Except.bind]
  | some c =>
      cases c <;> simp [bind, Except.bind, pure, Except.pure, throw, throwThe, MonadExceptOf.throw]

theorem getInteger_eq_error_iff {e : Error} :
    r.getInteger k = .error e ↔ r.Unreadable k .integer e := by
  unfold getInteger require Unreadable
  cases h : r.get? k with
  | none => simp [bind, Except.bind, eq_comm]
  | some c =>
      cases c <;> simp [bind, Except.bind, pure, Except.pure, throw, throwThe,
        MonadExceptOf.throw, Cell.kind, eq_comm]

/-- A ranged read gives the integer under the key when it lies in the range. -/
theorem getRanged_eq_ok_iff {lo hi v : Int} {name : String} :
    r.getRanged k lo hi name = .ok v ↔ r.IntegerIn k (· = v) ∧ lo ≤ v ∧ v ≤ hi := by
  unfold getRanged
  rw [Except.bind_eq_ok_iff]
  constructor
  · rintro ⟨n, hn, hrange⟩
    rw [Except.ite_pure_throw_eq_ok_iff] at hrange
    obtain ⟨hin, rfl⟩ := hrange
    exact ⟨⟨n, getInteger_eq_ok_iff.mp hn, rfl⟩, hin⟩
  · rintro ⟨⟨n, hn, rfl⟩, hin⟩
    exact ⟨n, getInteger_eq_ok_iff.mpr hn, Except.ite_pure_throw_eq_ok_iff.mpr ⟨hin, rfl⟩⟩

/-- A ranged read fails as a read of an integer does, or with the range when the integer misses
it. -/
theorem getRanged_eq_error_iff {lo hi : Int} {name : String} {e : Error} :
    r.getRanged k lo hi name = .error e ↔
      r.Unreadable k .integer e ∨ r.Misses k (fun x => lo ≤ x ∧ x ≤ hi) name e := by
  unfold getRanged Misses
  rw [Except.bind_eq_error_iff, getInteger_eq_error_iff]
  simp only [getInteger_eq_ok_iff, Except.ite_pure_throw_eq_error_iff]

/-- A key holds the integer of a natural number below `2 ^ 63` exactly when it holds that
number's 64-bit integer. -/
theorem integerIn_eq_iff {m : Nat} (hm : m < 2 ^ 63) :
    r.IntegerIn k (· = m) ↔ r.get? k = some (.integer (Int64.ofNat m)) := by
  have hint : (Int64.ofNat m).toInt = m := Int64.toInt_ofNat_of_lt hm
  constructor
  · rintro ⟨n, hn, hv⟩
    rw [hn, ← Int64.toInt_inj.mp (hv.trans hint.symm)]
  · intro h
    exact ⟨_, h, hint⟩

/-- A type of natural numbers `0 ..= hi`, into which a read of that range is narrowed. -/
structure Narrowing (β : Type) (hi : Int) where
  ofInt : Int → β
  toNat : β → Nat
  toNat_le : ∀ b, (toNat b : Int) ≤ hi
  ofInt_toNat : ∀ b, ofInt (toNat b) = b
  toNat_ofInt : ∀ v, 0 ≤ v → v ≤ hi → (toNat (ofInt v) : Int) = v

/-- The 16-bit numbers. -/
def Narrowing.u16 : Narrowing UInt16 65535 where
  ofInt v := UInt16.ofNat v.toNat
  toNat := UInt16.toNat
  toNat_le b := by
    have := b.toNat_lt
    omega
  ofInt_toNat b := by rw [Int.toNat_natCast, UInt16.ofNat_toNat]
  toNat_ofInt v h0 h1 := by
    rw [UInt16.toNat_ofNat_of_lt' (by simp only [UInt16.size]; omega)]
    omega

/-- The 32-bit numbers. -/
def Narrowing.u32 : Narrowing UInt32 4294967295 where
  ofInt v := UInt32.ofNat v.toNat
  toNat := UInt32.toNat
  toNat_le b := by
    have := b.toNat_lt
    omega
  ofInt_toNat b := by rw [Int.toNat_natCast, UInt32.ofNat_toNat]
  toNat_ofInt v h0 h1 := by
    rw [UInt32.toNat_ofNat_of_lt' (by simp only [UInt32.size]; omega)]
    omega

/-- A narrowed read gives a number exactly when the key holds that number's integer. -/
theorem map_getRanged_eq_ok_iff {β : Type} {hi : Int} {name : String} (w : Narrowing β hi)
    {b : β} : (r.getRanged k 0 hi name).map w.ofInt = .ok b ↔ r.IntegerIn k (· = w.toNat b) := by
  rw [Except.map_eq_ok_iff]
  constructor
  · rintro ⟨v, hv, rfl⟩
    obtain ⟨⟨n, hn, rfl⟩, hlo, hhi⟩ := getRanged_eq_ok_iff.mp hv
    exact ⟨n, hn, (w.toNat_ofInt _ hlo hhi).symm⟩
  · rintro ⟨n, hn, hv⟩
    refine ⟨n.toInt, getRanged_eq_ok_iff.mpr ⟨⟨n, hn, rfl⟩, by omega, hv ▸ w.toNat_le b⟩, ?_⟩
    rw [hv, w.ofInt_toNat]

/-- A key holds the integer of some number of a narrowing exactly when it holds an integer of
its range. -/
theorem exists_integerIn_toNat_iff {β : Type} {hi : Int} (w : Narrowing β hi) :
    (∃ b, r.IntegerIn k (· = w.toNat b)) ↔ r.IntegerIn k fun v => 0 ≤ v ∧ v ≤ hi := by
  constructor
  · rintro ⟨b, n, hn, hv⟩
    exact ⟨n, hn, by omega, hv ▸ w.toNat_le b⟩
  · rintro ⟨n, hn, hlo, hhi⟩
    exact ⟨w.ofInt n.toInt, n, hn, (w.toNat_ofInt _ hlo hhi).symm⟩

/-- A 16-bit read is a ranged read of `0 ..= 65535`, narrowed. -/
theorem getUInt16_eq (r : Record) (k : String) :
    r.getUInt16 k = (r.getRanged k 0 65535 "u16").map Narrowing.u16.ofInt := by
  have hbound : ((Nat.pow 2 16 : Nat) : Int) - 1 = 65535 := by decide
  unfold getUInt16
  rw [hbound]
  cases r.getRanged k 0 65535 "u16" <;> rfl

/-- A 32-bit read is a ranged read of `0 ..= 4294967295`, narrowed. -/
theorem getUInt32_eq (r : Record) (k : String) :
    r.getUInt32 k = (r.getRanged k 0 4294967295 "u32").map Narrowing.u32.ofInt := by
  have hbound : ((Nat.pow 2 32 : Nat) : Int) - 1 = 4294967295 := by decide
  unfold getUInt32
  rw [hbound]
  cases r.getRanged k 0 4294967295 "u32" <;> rfl

theorem getUInt16_eq_ok_iff {u : UInt16} :
    r.getUInt16 k = .ok u ↔ r.IntegerIn k (· = u.toNat) := by
  rw [getUInt16_eq]
  exact map_getRanged_eq_ok_iff Narrowing.u16

theorem getUInt32_eq_ok_iff {u : UInt32} :
    r.getUInt32 k = .ok u ↔ r.IntegerIn k (· = u.toNat) := by
  rw [getUInt32_eq]
  exact map_getRanged_eq_ok_iff Narrowing.u32

theorem getUInt16_eq_error_iff {e : Error} :
    r.getUInt16 k = .error e ↔
      r.Unreadable k .integer e ∨ r.Misses k (fun x => 0 ≤ x ∧ x ≤ 65535) "u16" e := by
  rw [getUInt16_eq, Except.map_eq_error_iff, getRanged_eq_error_iff]

theorem getUInt32_eq_error_iff {e : Error} :
    r.getUInt32 k = .error e ↔
      r.Unreadable k .integer e ∨ r.Misses k (fun x => 0 ≤ x ∧ x ≤ 4294967295) "u32" e := by
  rw [getUInt32_eq, Except.map_eq_error_iff, getRanged_eq_error_iff]

end Outcomes

end Record

end Parley
