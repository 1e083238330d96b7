import Mathlib
import Parley.Component.Mind
import Parley.Component.Motion
import Parley.Component.Position
import Parley.Component.Schedule
import Parley.Proofs.Binary.Widening
import Parley.Proofs.Record.Cells

/-!
# Saving and restoring the parts of a character

Each part writes its fields into a record under keys of its own, and reads them back from any
record that holds them there. So a part saved into a fresh record reads back: a mind, a motion
and a schedule as they were, and a position with every NaN coordinate made the quiet NaN, since
a coordinate is kept as a double. A walking set and a heading are written as their bits, and
every set of directions and every direction reads back from its bits.
-/

namespace Parley

open Record

namespace Direction

theorem ofBit?_bit (d : Direction) : ofBit? d.bit = some d := by
  cases d <;> rfl

theorem bit_lt (d : Direction) : d.bit < 16 := by
  cases d <;> decide

end Direction

namespace Directions

/-- Every set of directions reads back from its bits. -/
theorem ofBits?_bits (d : Directions) : ofBits? d.bits = some d := by
  obtain ⟨west, east, north, south⟩ := d
  cases west <;> cases east <;> cases north <;> cases south <;> rfl

theorem lt_of_ofBits? {n : Nat} {d : Directions} (h : ofBits? n = some d) : n < 16 := by
  unfold ofBits? at h
  split at h
  · assumption
  · cases h

theorem bits_lt (d : Directions) : d.bits < 16 :=
  lt_of_ofBits? (ofBits?_bits d)

end Directions

namespace Mind

/-- A mind reads back from a record holding each of its fields under its key, and no portrait
when it has none. -/
theorem restore_of_get? {r : Record} {m : Mind}
    (hportrait : r.get? "portrait" = m.portrait.map .string)
    (hid : r.get? "id" = some (.string m.id)) (hname : r.get? "name" = some (.string m.name))
    (hdialogue : r.get? "dialogue" = some (.string m.dialogue))
    (hcolor : r.get? "color" = some (.integer (Int64.ofNat m.color.toNat))) :
    restore r = .ok m := by
  have hc := getUInt32_of_get? hcolor m.color.toNat_lt
  rw [UInt32.ofNat_toNat] at hc
  obtain ⟨id, name, dialogue, color, portrait⟩ := m
  -- the portrait is read first, and only when the record has one
  cases portrait with
  | none =>
      have hcon : r.contains "portrait" = false := by simp [contains, hportrait]
      simp only [restore, hcon, getString_of_get? hid, getString_of_get? hname,
        getString_of_get? hdialogue, hc, Bool.false_eq_true, if_false, bind, Except.bind, pure,
        Except.pure]
  | some p =>
      have hcon : r.contains "portrait" = true := by simp [contains, hportrait]
      simp only [Option.map_some] at hportrait
      simp only [restore, hcon, getString_of_get? hportrait, getString_of_get? hid,
        getString_of_get? hname, getString_of_get? hdialogue, hc, if_true, bind, Except.bind,
        pure, Except.pure, Functor.map, Except.map]

/-- A mind saved into a fresh record reads back as it was. -/
theorem restore_save (m : Mind) : restore (m.save Record.empty) = .ok m := by
  apply restore_of_get? <;> cases h : m.portrait <;>
    simp [save, h, putString, putNat, get?_put]

end Mind

namespace Position

/-- A position with its NaN coordinates made the quiet NaN. -/
def quiet (p : Position) : Position := ⟨p.x.quiet, p.y.quiet, p.z.quiet⟩

/-- A position reads back from a record holding its coordinates as doubles, each rounded to a
single. -/
theorem restore_of_get? {r : Record} {x y z : Binary64} (hx : r.get? "x" = some (.float x))
    (hy : r.get? "y" = some (.float y)) (hz : r.get? "z" = some (.float z)) :
    restore r = .ok ⟨x.toBinary32, y.toBinary32, z.toBinary32⟩ := by
  simp only [restore, getSingle_of_get? hx, getSingle_of_get? hy, getSingle_of_get? hz]
  rfl

/-- A position saved into a fresh record reads back with its NaN coordinates made quiet. -/
theorem restore_save (p : Position) : restore (p.save Record.empty) = .ok p.quiet := by
  have hx : (p.save Record.empty).get? "x" = some (.float p.x.toBinary64) := by
    simp [save, putSingle, get?_put]
  have hy : (p.save Record.empty).get? "y" = some (.float p.y.toBinary64) := by
    simp [save, putSingle, get?_put]
  have hz : (p.save Record.empty).get? "z" = some (.float p.z.toBinary64) := by
    simp [save, putSingle, get?_put]
  rw [restore_of_get? hx hy hz]
  simp only [Binary32.toBinary32_toBinary64]
  rfl

/-- A signalling NaN comes back as the quiet NaN, the other coordinates as they were. -/
example : restore ((⟨Binary32.ofPattern 0x7F800001, Binary32.ofNat 3, Binary32.zero⟩ : Position).save
    Record.empty) = .ok ⟨Binary32.nan, Binary32.ofNat 3, Binary32.zero⟩ := rfl

end Position

namespace Motion

/-- A motion reads back from a record holding the bits of its walking set and heading. -/
theorem restore_of_get? {r : Record} {m : Motion}
    (hdir : r.get? "dir" = some (.integer (Int64.ofNat m.direction.bits)))
    (hheading : r.get? "heading" = some (.integer (Int64.ofNat m.heading.bit))) :
    restore r = .ok m := by
  have hdir16 : m.direction.bits < 2 ^ 16 := by
    have := m.direction.bits_lt
    omega
  have hheading16 : m.heading.bit < 2 ^ 16 := by
    have := m.heading.bit_lt
    omega
  have hdn : (UInt16.ofNat m.direction.bits).toNat = m.direction.bits :=
    UInt16.toNat_ofNat_of_lt' hdir16
  have hhn : (UInt16.ofNat m.heading.bit).toNat = m.heading.bit :=
    UInt16.toNat_ofNat_of_lt' hheading16
  simp only [restore, getUInt16_of_get? hdir hdir16, getUInt16_of_get? hheading hheading16, hdn,
    hhn, Directions.ofBits?_bits, Direction.ofBit?_bit, bind, Except.bind, pure, Except.pure]

/-- A motion saved into a fresh record reads back as it was. -/
theorem restore_save (m : Motion) : restore (m.save Record.empty) = .ok m := by
  apply restore_of_get? <;> simp [save, putNat, get?_put]

end Motion

namespace Schedule

/-- A schedule reads back from a record holding its manager and its pause count. -/
theorem restore_of_get? {r : Record} {s : Schedule}
    (hmanager : r.get? "manager" = some (.string s.manager))
    (hpaused : r.get? "paused" = some (.integer (Int64.ofNat s.paused.toNat))) :
    restore r = .ok s := by
  have hp := getUInt16_of_get? hpaused s.paused.toNat_lt
  rw [UInt16.ofNat_toNat] at hp
  simp only [restore, getString_of_get? hmanager, hp]
  rfl

/-- A schedule saved into a fresh record reads back as it was, whatever its pause count. -/
theorem restore_save (s : Schedule) : restore (s.save Record.empty) = .ok s := by
  apply restore_of_get? <;> simp [save, putString, putNat, get?_put]

end Schedule

end Parley
