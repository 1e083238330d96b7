import Parley.Proofs.Component.RoundTrip

/-!
# Reading a component's record, exactly

A schedule, a motion and a mind each read their fields from a record in a fixed order, and the
read succeeds exactly when every field holds a cell of the kind asked for and, for an integer, a
value of the width asked for: 16 bits for a pause count, a set of directions (`0` to `15`) for a
walking set, a single direction (`1`, `2`, `4` or `8`) for a heading, 32 bits for a color. A mind's
portrait may be absent. A motion that cannot be read fails on the first check that fails, the
walking set before the heading, and names the range its value misses.

What a component reads is what its record held: saving it again into that record changes no key.
A schedule and a motion saved into any record read back as they were. A mind writes its portrait
only when it has one, so a portrait already in the record stays there: a mind without a portrait
saved into a record that holds one reads back with that portrait.

Main statement: `component_codecs_exact`.
-/

namespace Parley

open Record

namespace Directions

/-- A set read from a bit pattern has that pattern as its bits. -/
theorem bits_of_ofBits? {n : Nat} {d : Directions} (h : ofBits? n = some d) : d.bits = n := by
  have hn := lt_of_ofBits? h
  interval_cases n <;> (simp only [ofBits?] at h; cases h; rfl)

/-- Every pattern of four bits is the pattern of a set. -/
theorem exists_bits_eq {v : Int} (h0 : 0 ≤ v) (h15 : v ≤ 15) : ∃ d : Directions, (d.bits : Int) = v := by
  have hlt : v.toNat < 16 := by omega
  refine ⟨⟨v.toNat.testBit 0, v.toNat.testBit 1, v.toNat.testBit 2, v.toNat.testBit 3⟩, ?_⟩
  rw [bits_of_ofBits? (n := v.toNat) (by simp only [ofBits?, hlt, if_true])]
  omega

end Directions

namespace Direction

/-- A direction read from a bit has that bit. -/
theorem bit_of_ofBit? {n : Nat} {d : Direction} (h : ofBit? n = some d) : d.bit = n := by
  unfold ofBit? at h
  split at h <;> cases h <;> rfl

/-- The bits of the directions are `1`, `2`, `4` and `8`. -/
theorem exists_bit_eq_iff {v : Int} :
    (∃ d : Direction, (d.bit : Int) = v) ↔ v = 1 ∨ v = 2 ∨ v = 4 ∨ v = 8 := by
  constructor
  · rintro ⟨d, rfl⟩
    cases d <;> simp [bit]
  · rintro (rfl | rfl | rfl | rfl)
    exacts [⟨.west, rfl⟩, ⟨.east, rfl⟩, ⟨.north, rfl⟩, ⟨.south, rfl⟩]

/-- A bit that names no direction is none of `1`, `2`, `4` and `8`. -/
theorem not_single_of_ofBit? {n : Nat} (h : ofBit? n = none) :
    ¬((n : Int) = 1 ∨ (n : Int) = 2 ∨ (n : Int) = 4 ∨ (n : Int) = 8) := by
  intro hn
  have hn' : n = 1 ∨ n = 2 ∨ n = 4 ∨ n = 8 := by omega
  rcases hn' with rfl | rfl | rfl | rfl <;> cases h

end Direction

namespace Schedule

/-- A schedule is read from a record exactly when the record holds its manager as a string and its
pause count as an integer. -/
theorem restore_eq_ok_iff (r : Record) (s : Schedule) :
    restore r = .ok s ↔
      r.get? "manager" = some (.string s.manager) ∧
        r.get? "paused" = some (.integer (Int64.ofNat s.paused.toNat)) := by
  rw [← integerIn_eq_iff (by have := s.paused.toNat_lt; omega)]
  unfold restore
  simp only [Except.bind_eq_ok_iff, getString_eq_ok_iff, getUInt16_eq_ok_iff, pure, Except.pure,
    Except.ok.injEq]
  constructor
  · rintro ⟨m, hm, p, hp, rfl⟩
    exact ⟨hm, hp⟩
  · rintro ⟨hm, hp⟩
    exact ⟨s.manager, hm, s.paused, hp, rfl⟩

/-- A schedule can be read exactly when the manager is a string and the pause count an integer of
16 bits. -/
theorem restore_isOk_iff (r : Record) :
    (∃ s, restore r = .ok s) ↔
      (∃ m, r.get? "manager" = some (.string m)) ∧
        r.IntegerIn "paused" fun v => 0 ≤ v ∧ v ≤ 65535 := by
  rw [← exists_integerIn_toNat_iff Narrowing.u16]
  constructor
  · rintro ⟨s, hs⟩
    obtain ⟨hm, hp⟩ := (restore_eq_ok_iff r s).mp hs
    exact ⟨⟨_, hm⟩, s.paused,
      (integerIn_eq_iff (m := s.paused.toNat) (by have := s.paused.toNat_lt; omega)).mpr hp⟩
  · rintro ⟨⟨m, hm⟩, p, hp⟩
    exact ⟨⟨m, p⟩, (restore_eq_ok_iff r _).mpr
      ⟨hm, (integerIn_eq_iff (m := p.toNat) (by have := p.toNat_lt; omega)).mp hp⟩⟩

/-- Saving a schedule into the record it was read from changes no key. -/
theorem get?_save_of_restore {r : Record} {s : Schedule} (h : restore r = .ok s) (k : String) :
    (s.save r).get? k = r.get? k := by
  obtain ⟨hm, hp⟩ := (restore_eq_ok_iff r s).mp h
  have hkeep := get?_put_of_get? hm
  unfold save putString putNat
  rw [get?_put_of_get? ((hkeep "paused").trans hp), hkeep]

/-- A schedule saved into any record reads back as it was. -/
theorem restore_save_into (s : Schedule) (r : Record) : restore (s.save r) = .ok s := by
  apply restore_of_get? <;> simp [save, putString, putNat, get?_put]

end Schedule

namespace Motion

/-- Every way reading a motion can go: the walking set fails to be a 16-bit integer, or it is one
that names no set of directions, or it names a set and then the heading fails to be a 16-bit
integer, or it is one that names no direction, or it names one and the motion is read. -/
theorem restore_cases (r : Record) :
    (∃ e, r.getUInt16 "dir" = .error e ∧ restore r = .error e) ∨
    (∃ u, r.getUInt16 "dir" = .ok u ∧ Directions.ofBits? u.toNat = none ∧
      restore r = .error (.outOfRange "dir" u.toNat "direction flags")) ∨
    ∃ u d, r.getUInt16 "dir" = .ok u ∧ Directions.ofBits? u.toNat = some d ∧
      ((∃ e, r.getUInt16 "heading" = .error e ∧ restore r = .error e) ∨
      (∃ v, r.getUInt16 "heading" = .ok v ∧ Direction.ofBit? v.toNat = none ∧
        restore r = .error (.outOfRange "heading" v.toNat "a single direction")) ∨
      ∃ v h, r.getUInt16 "heading" = .ok v ∧ Direction.ofBit? v.toNat = some h ∧
        restore r = .ok ⟨d, h⟩) := by
  unfold restore
  cases hdir : r.getUInt16 "dir" with
  | error e => exact .inl ⟨e, rfl, rfl⟩
  | ok u =>
      cases hbits : Directions.ofBits? u.toNat with
      | none =>
          refine .inr (.inl ⟨u, rfl, hbits, ?_⟩)
          simp only [bind, Except.bind, hbits, throw, throwThe, MonadExceptOf.throw]
      | some d =>
          refine .inr (.inr ⟨u, d, rfl, hbits, ?_⟩)
          cases hhead : r.getUInt16 "heading" with
          | error e =>
              refine .inl ⟨e, rfl, ?_⟩
              simp only [bind, Except.bind, hbits, pure, Except.pure]
          | ok v =>
              cases hbit : Direction.ofBit? v.toNat with
              | none =>
                  refine .inr (.inl ⟨v, rfl, hbit, ?_⟩)
                  simp only [bind, Except.bind, hbits, hbit, pure, Except.pure, throw, throwThe,
                    MonadExceptOf.throw]
              | some h =>
                  refine .inr (.inr ⟨v, h, rfl, hbit, ?_⟩)
                  simp only [bind, Except.bind, hbits, hbit, pure, Except.pure]

/-- A motion is read from a record exactly when the record holds the bits of its walking set and
of its heading. -/
theorem restore_eq_ok_iff (r : Record) (m : Motion) :
    restore r = .ok m ↔
      r.get? "dir" = some (.integer (Int64.ofNat m.direction.bits)) ∧
        r.get? "heading" = some (.integer (Int64.ofNat m.heading.bit)) := by
  constructor
  · intro hm
    rcases restore_cases r with ⟨e, -, he⟩ | ⟨u, -, -, he⟩ |
      ⟨u, d, hdir, hbits, ⟨e, -, he⟩ | ⟨v, -, -, he⟩ | ⟨v, h, hhead, hbit, hok⟩⟩
    all_goals try (rw [hm] at he; cases he)
    -- only a read of both fields gives a motion, the one their bits name
    rw [hm, Except.ok.injEq] at hok
    subst hok
    have hd : d.bits < 2 ^ 63 := by
      have := d.bits_lt
      omega
    have hh : h.bit < 2 ^ 63 := by
      have := h.bit_lt
      omega
    refine ⟨(integerIn_eq_iff hd).mp ?_, (integerIn_eq_iff hh).mp ?_⟩
    · rw [Directions.bits_of_ofBits? hbits]
      exact getUInt16_eq_ok_iff.mp hdir
    · rw [Direction.bit_of_ofBit? hbit]
      exact getUInt16_eq_ok_iff.mp hhead
  · rintro ⟨hdir, hheading⟩
    exact restore_of_get? hdir hheading

/-- A motion can be read exactly when the walking set is an integer from `0` to `15` and the
heading one of `1`, `2`, `4` and `8`. -/
theorem restore_isOk_iff (r : Record) :
    (∃ m, restore r = .ok m) ↔
      r.IntegerIn "dir" (fun v => 0 ≤ v ∧ v ≤ 15) ∧
        r.IntegerIn "heading" fun v => v = 1 ∨ v = 2 ∨ v = 4 ∨ v = 8 := by
  constructor
  · rintro ⟨m, hm⟩
    obtain ⟨hdir, hheading⟩ := (restore_eq_ok_iff r m).mp hm
    have hd := m.direction.bits_lt
    have hh := m.heading.bit_lt
    refine ⟨⟨_, hdir, ?_⟩, ⟨_, hheading, ?_⟩⟩
    · rw [Int64.toInt_ofNat_of_lt (by omega)]
      omega
    · rw [Int64.toInt_ofNat_of_lt (by omega)]
      exact Direction.exists_bit_eq_iff.mp ⟨m.heading, rfl⟩
  · rintro ⟨⟨n, hn, h0, h15⟩, ⟨n', hn', hsingle⟩⟩
    obtain ⟨d, hd⟩ := Directions.exists_bits_eq h0 h15
    obtain ⟨h, hh⟩ := Direction.exists_bit_eq_iff.mpr hsingle
    refine ⟨⟨d, h⟩, (restore_eq_ok_iff r _).mpr ⟨?_, ?_⟩⟩
    · exact (integerIn_eq_iff (m := d.bits) (by have := d.bits_lt; omega)).mp ⟨n, hn, hd.symm⟩
    · exact (integerIn_eq_iff (m := h.bit) (by have := h.bit_lt; omega)).mp ⟨n', hn', hh.symm⟩

/-- How reading a motion fails, check by check: the walking set must be an integer of 16 bits
and then a set of directions; only then must the heading be an integer of 16 bits and then a
single direction. A range missed is named in the error with the value that missed it. -/
def Fails (r : Record) (e : Record.Error) : Prop :=
  r.Unreadable "dir" .integer e ∨ r.Misses "dir" (fun v => 0 ≤ v ∧ v ≤ 65535) "u16" e ∨
    (r.IntegerIn "dir" (fun v => 0 ≤ v ∧ v ≤ 65535) ∧
      r.Misses "dir" (· ≤ 15) "direction flags" e) ∨
    (r.IntegerIn "dir" (fun v => 0 ≤ v ∧ v ≤ 15) ∧
      (r.Unreadable "heading" .integer e ∨
        r.Misses "heading" (fun v => 0 ≤ v ∧ v ≤ 65535) "u16" e ∨
        (r.IntegerIn "heading" (fun v => 0 ≤ v ∧ v ≤ 65535) ∧
          r.Misses "heading" (fun v => v = 1 ∨ v = 2 ∨ v = 4 ∨ v = 8) "a single direction" e)))

/-- A failed read of a motion fails as `Fails` says. -/
theorem fails_of_restore {r : Record} {e : Record.Error} (h : restore r = .error e) : Fails r e := by
  rcases restore_cases r with ⟨e', hdir, he⟩ | ⟨u, hdir, hbits, he⟩ |
    ⟨u, d, hdir, hbits, ⟨e', hhead, he⟩ | ⟨v, hhead, hbit, he⟩ | ⟨v, h', -, -, hok⟩⟩
  · -- the walking set is no 16-bit integer
    rw [h, Except.error.injEq] at he
    subst he
    rcases getUInt16_eq_error_iff.mp hdir with hu | hm
    · exact .inl hu
    · exact .inr (.inl hm)
  · -- the walking set is a 16-bit integer but no set of directions
    rw [h, Except.error.injEq] at he
    subst he
    obtain ⟨n, hn, hv⟩ := getUInt16_eq_ok_iff.mp hdir
    have hbig : 16 ≤ u.toNat := by
      by_contra hsmall
      simp only [Directions.ofBits?, show u.toNat < 16 by omega, if_true] at hbits
      cases hbits
    refine .inr (.inr (.inl ⟨⟨n, hn, ?_, ?_⟩, n, hn, ?_, by rw [hv]⟩))
    all_goals have := u.toNat_lt
    all_goals omega
  all_goals
    -- from here on the walking set is read: an integer from `0` to `15`
    have hflags : r.IntegerIn "dir" fun v => 0 ≤ v ∧ v ≤ 15 := by
      obtain ⟨n, hn, hv⟩ := getUInt16_eq_ok_iff.mp hdir
      have := Directions.lt_of_ofBits? hbits
      exact ⟨n, hn, by omega, by omega⟩
  · rw [h, Except.error.injEq] at he
    subst he
    rcases getUInt16_eq_error_iff.mp hhead with hu | hm
    · exact .inr (.inr (.inr ⟨hflags, .inl hu⟩))
    · exact .inr (.inr (.inr ⟨hflags, .inr (.inl hm)⟩))
  · -- the heading is a 16-bit integer but no single direction
    rw [h, Except.error.injEq] at he
    subst he
    obtain ⟨n, hn, hv⟩ := getUInt16_eq_ok_iff.mp hhead
    have := v.toNat_lt
    refine .inr (.inr (.inr ⟨hflags, .inr (.inr ⟨⟨n, hn, by omega, by omega⟩, n, hn, ?_, by rw [hv]⟩)⟩))
    rw [hv]
    exact Direction.not_single_of_ofBit? hbit
  · rw [h] at hok
    cases hok

/-- Saving a motion into the record it was read from changes no key. -/
theorem get?_save_of_restore {r : Record} {m : Motion} (h : restore r = .ok m) (k : String) :
    (m.save r).get? k = r.get? k := by
  obtain ⟨hdir, hheading⟩ := (restore_eq_ok_iff r m).mp h
  have hkeep := get?_put_of_get? hdir
  unfold save putNat
  rw [get?_put_of_get? ((hkeep "heading").trans hheading), hkeep]

/-- A motion saved into any record reads back as it was. -/
theorem restore_save_into (m : Motion) (r : Record) : restore (m.save r) = .ok m := by
  apply restore_of_get? <;> simp [save, putNat, get?_put]

end Motion

namespace Mind

/-- A mind is read from a record exactly when the record holds its identifier, name and dialogue
as strings, its color as an integer, and its portrait as a string, or no portrait when it has
none. -/
theorem restore_eq_ok_iff (r : Record) (m : Mind) :
    restore r = .ok m ↔
      r.get? "portrait" = m.portrait.map .string ∧ r.get? "id" = some (.string m.id) ∧
        r.get? "name" = some (.string m.name) ∧ r.get? "dialogue" = some (.string m.dialogue) ∧
        r.get? "color" = some (.integer (Int64.ofNat m.color.toNat)) := by
  rw [← integerIn_eq_iff (by have := m.color.toNat_lt; omega)]
  obtain ⟨i, n, d, c, p⟩ := m
  -- the portrait is read first, and only when the record has one
  cases hport : r.get? "portrait" with
  | none =>
      have hcon : r.contains "portrait" = false := by simp [contains, hport]
      simp only [restore, hcon, Bool.false_eq_true, if_false, Except.bind_eq_ok_iff,
        getString_eq_ok_iff, getUInt32_eq_ok_iff, pure, Except.pure, Except.ok.injEq,
        Mind.mk.injEq]
      constructor
      · rintro ⟨_, rfl, _, hi, _, hn, _, hd, _, hc, rfl, rfl, rfl, rfl, rfl⟩
        exact ⟨rfl, hi, hn, hd, hc⟩
      · rintro ⟨hp, hi, hn, hd, hc⟩
        cases p with
        | none => exact ⟨none, rfl, i, hi, n, hn, d, hd, c, hc, rfl, rfl, rfl, rfl, rfl⟩
        | some q => cases hp
  | some cell =>
      have hcon : r.contains "portrait" = true := by simp [contains, hport]
      simp only [restore, hcon, if_true, Except.bind_eq_ok_iff, Functor.map, Except.map_eq_ok_iff,
        getString_eq_ok_iff, getUInt32_eq_ok_iff, hport, pure, Except.pure, Except.ok.injEq,
        Mind.mk.injEq]
      constructor
      · rintro ⟨_, ⟨q, hq, rfl⟩, _, hi, _, hn, _, hd, _, hc, rfl, rfl, rfl, rfl, rfl⟩
        exact ⟨hq, hi, hn, hd, hc⟩
      · rintro ⟨hp, hi, hn, hd, hc⟩
        cases p with
        | none => cases hp
        | some q => exact ⟨some q, ⟨q, hp, rfl⟩, i, hi, n, hn, d, hd, c, hc, rfl, rfl, rfl, rfl, rfl⟩

/-- A mind can be read exactly when its identifier, name and dialogue are strings, its color an
integer of 32 bits, and its portrait absent or a string. -/
theorem restore_isOk_iff (r : Record) :
    (∃ m, restore r = .ok m) ↔
      (∃ s, r.get? "id" = some (.string s)) ∧ (∃ s, r.get? "name" = some (.string s)) ∧
        (∃ s, r.get? "dialogue" = some (.string s)) ∧
        r.IntegerIn "color" (fun v => 0 ≤ v ∧ v ≤ 4294967295) ∧
        (r.get? "portrait" = none ∨ ∃ p, r.get? "portrait" = some (.string p)) := by
  rw [← exists_integerIn_toNat_iff Narrowing.u32]
  constructor
  · rintro ⟨m, hm⟩
    obtain ⟨hp, hi, hn, hd, hc⟩ := (restore_eq_ok_iff r m).mp hm
    refine ⟨⟨_, hi⟩, ⟨_, hn⟩, ⟨_, hd⟩,
      ⟨m.color, (integerIn_eq_iff (m := m.color.toNat) (by have := m.color.toNat_lt; omega)).mpr hc⟩,
      ?_⟩
    cases hport : m.portrait with
    | none => exact .inl (by rw [hp, hport, Option.map_none])
    | some q => exact .inr ⟨q, by rw [hp, hport, Option.map_some]⟩
  · rintro ⟨⟨i, hi⟩, ⟨n, hn⟩, ⟨d, hd⟩, ⟨c, hc⟩, hp⟩
    -- the portrait read is the string the record holds, if any
    obtain ⟨p, hp'⟩ : ∃ p : Option String, r.get? "portrait" = p.map .string := by
      rcases hp with hp | ⟨q, hq⟩
      · exact ⟨none, hp⟩
      · exact ⟨some q, hq⟩
    exact ⟨⟨i, n, d, c, p⟩, (restore_eq_ok_iff r _).mpr
      ⟨hp', hi, hn, hd, (integerIn_eq_iff (m := c.toNat) (by have := c.toNat_lt; omega)).mp hc⟩⟩

/-- Saving a mind into the record it was read from changes no key. -/
theorem get?_save_of_restore {r : Record} {m : Mind} (h : restore r = .ok m) (k : String) :
    (m.save r).get? k = r.get? k := by
  obtain ⟨hp, hi, hn, hd, hc⟩ := (restore_eq_ok_iff r m).mp h
  -- each field is written with the cell it already holds, so every lookup stays
  have hid := get?_put_of_get? hi
  have hname := get?_put_of_get? ((hid "name").trans hn)
  have hdia := get?_put_of_get? (((hname "dialogue").trans (hid "dialogue")).trans hd)
  have hcol := get?_put_of_get?
    ((((hdia "color").trans (hname "color")).trans (hid "color")).trans hc)
  have hfields : ∀ k, ((((r.putString "id" m.id).putString "name" m.name).putString "dialogue"
      m.dialogue).putNat "color" m.color.toNat).get? k = r.get? k := fun k => by
    unfold putString putNat
    rw [hcol, hdia, hname, hid]
  unfold save
  cases hport : m.portrait with
  | none => exact hfields k
  | some q =>
      -- the portrait too is written with the cell it already holds
      rw [hport, Option.map_some] at hp
      exact (get?_put_of_get? ((hfields "portrait").trans hp) k).trans (hfields k)

/-- A mind saved into a record reads back as it was when it has a portrait or the record has
none. -/
theorem restore_save_into {m : Mind} {r : Record}
    (h : m.portrait.isSome ∨ r.get? "portrait" = none) : restore (m.save r) = .ok m := by
  apply restore_of_get?
  · cases hport : m.portrait with
    | none =>
        rw [hport] at h
        simpa [save, hport, putString, putNat, get?_put] using h
    | some q => simp [save, hport, putString, get?_put]
  all_goals cases hport : m.portrait <;> simp [save, hport, putString, putNat, get?_put]

/-- A mind without a portrait saved into a record that holds one reads back with that portrait. -/
theorem restore_save_stale {m : Mind} {r : Record} {p : String} (hm : m.portrait = none)
    (hr : r.get? "portrait" = some (.string p)) :
    restore (m.save r) = .ok { m with portrait := some p } := by
  apply restore_of_get? <;> simp [save, hm, hr, putString, putNat, get?_put]

/-- Saving a mind without a portrait over a record that holds one does not give the mind back. -/
theorem stale_portrait_breaks_round_trip :
    restore ((Mind.new "talan" "Talan").save (Record.empty.putString "portrait" "old.png")) ≠
      .ok (Mind.new "talan" "Talan") := by
  rw [restore_save_stale (p := "old.png") rfl (by simp [putString, get?_put])]
  simp [Mind.new]

end Mind

/-- Reading a schedule, a motion or a mind from a record succeeds exactly when each field holds a
cell of its kind and, for an integer, a value of its range; a motion fails on the first check that
fails and names the range missed. What is read is what the record held, so saving it back changes
no key. A schedule and a motion saved into any record read back as they were, and so does a mind
unless it has no portrait and the record holds one, which it then reads back. -/
theorem component_codecs_exact :
    (∀ r : Record, (∃ s, Schedule.restore r = .ok s) ↔
      (∃ m, r.get? "manager" = some (.string m)) ∧
        r.IntegerIn "paused" fun v => 0 ≤ v ∧ v ≤ 65535) ∧
    (∀ r : Record, (∃ m, Motion.restore r = .ok m) ↔
      r.IntegerIn "dir" (fun v => 0 ≤ v ∧ v ≤ 15) ∧
        r.IntegerIn "heading" fun v => v = 1 ∨ v = 2 ∨ v = 4 ∨ v = 8) ∧
    (∀ (r : Record) (e : Record.Error), Motion.restore r = .error e → Motion.Fails r e) ∧
    (∀ r : Record, (∃ m, Mind.restore r = .ok m) ↔
      (∃ s, r.get? "id" = some (.string s)) ∧ (∃ s, r.get? "name" = some (.string s)) ∧
        (∃ s, r.get? "dialogue" = some (.string s)) ∧
        r.IntegerIn "color" (fun v => 0 ≤ v ∧ v ≤ 4294967295) ∧
        (r.get? "portrait" = none ∨ ∃ p, r.get? "portrait" = some (.string p))) ∧
    (∀ (r : Record) (s : Schedule), Schedule.restore r = .ok s →
      ∀ k, (s.save r).get? k = r.get? k) ∧
    (∀ (r : Record) (m : Motion), Motion.restore r = .ok m → ∀ k, (m.save r).get? k = r.get? k) ∧
    (∀ (r : Record) (m : Mind), Mind.restore r = .ok m → ∀ k, (m.save r).get? k = r.get? k) ∧
    (∀ (s : Schedule) (r : Record), Schedule.restore (s.save r) = .ok s) ∧
    (∀ (m : Motion) (r : Record), Motion.restore (m.save r) = .ok m) ∧
    (∀ (m : Mind) (r : Record), (m.portrait.isSome ∨ r.get? "portrait" = none) →
      Mind.restore (m.save r) = .ok m) ∧
    (∀ (m : Mind) (r : Record) (p : String), m.portrait = none →
      r.get? "portrait" = some (.string p) →
        Mind.restore (m.save r) = .ok { m with portrait := some p }) :=
  ⟨Schedule.restore_isOk_iff, Motion.restore_isOk_iff, fun _ _ => Motion.fails_of_restore,
    Mind.restore_isOk_iff, fun _ _ => Schedule.get?_save_of_restore,
    fun _ _ => Motion.get?_save_of_restore, fun _ _ => Mind.get?_save_of_restore,
    Schedule.restore_save_into, Motion.restore_save_into, fun _ _ => Mind.restore_save_into,
    fun _ _ _ => Mind.restore_save_stale⟩

/-- A mind without a portrait, saved over a record that keeps an old one, reads back with it. -/
theorem talan_keeps_stale_portrait :
    (Mind.new "talan" "Talan").portrait = none ∧
      (Record.empty.putString "portrait" "old.png").get? "portrait" = some (.string "old.png") ∧
      Mind.restore ((Mind.new "talan" "Talan").save (Record.empty.putString "portrait" "old.png")) =
        .ok { Mind.new "talan" "Talan" with portrait := some "old.png" } := by
  have hstale : (Record.empty.putString "portrait" "old.png").get? "portrait" =
      some (.string "old.png") := by
    simp [putString, get?_put]
  exact ⟨rfl, hstale, component_codecs_exact.2.2.2.2.2.2.2.2.2.2 _ _ _ rfl hstale⟩

end Parley
