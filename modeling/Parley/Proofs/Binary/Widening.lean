import Mathlib
import Parley.Binary.Value

/-!
# Widening a single and narrowing it back

A single widened to a double keeps its value exactly, and rounding that double to the nearest
single gives the single back, pattern for pattern; a NaN comes back as the quiet NaN
(`Binary32.toBinary32_toBinary64`).

A pattern is its sign, exponent field and fraction put together (`Format.compose`), and decoding
reads those three back (`Format.decode_compose`). Rounding a value that lies on the grid of a
format lands on the pattern denoting it, whatever power of two its significand is written with
(`Format.round_decode`): the scaled significand is divided exactly and no carry happens. Every
single is a normal double (`Format.round_normal`), so widening writes its significand with more
zero bits and narrowing removes them again.
-/

namespace Parley.Binary

namespace Format

variable {f : Format}

/-- The pattern of a sign, an exponent field and a fraction. -/
def compose (f : Format) (negative : Bool) (field fraction : Nat) : Nat :=
  (if negative then f.signBit else 0) + field * 2 ^ f.fractionWidth + fraction

/-! ## Fields of a pattern -/

section Fields

variable (h : 1 ≤ f.precision)
include h

/-- With a significand of at least one bit, the sign bit sits right above the exponent field. -/
theorem signBit_eq : f.signBit = 2 ^ f.fractionWidth * 2 ^ f.exponentWidth := by
  rw [signBit, width, fractionWidth, Nat.pow_eq, ← Nat.pow_add]
  congr 1
  omega

theorem two_pow_width : 2 ^ f.width = 2 ^ f.fractionWidth * (2 ^ f.exponentWidth * 2) := by
  rw [width, fractionWidth, ← Nat.pow_succ, ← Nat.pow_add]
  congr 1
  omega

theorem two_pow_precision : 2 ^ f.precision = 2 ^ f.fractionWidth * 2 := by
  rw [fractionWidth, ← Nat.pow_succ]
  congr 1
  omega

theorem compose_eq (b : Bool) (field fraction : Nat) :
    f.compose b field fraction =
      2 ^ f.fractionWidth * ((if b then 2 ^ f.exponentWidth else 0) + field) + fraction := by
  rw [compose, signBit_eq h]
  cases b
  · simp only [Bool.false_eq_true, if_false]
    ring
  · simp only [if_true]
    ring

variable {fraction : Nat} (hfr : fraction < 2 ^ f.fractionWidth)
include hfr

theorem compose_mod (b : Bool) (field : Nat) :
    f.compose b field fraction % 2 ^ f.fractionWidth = fraction := by
  rw [compose_eq h, Nat.mul_add_mod, Nat.mod_eq_of_lt hfr]

theorem compose_div (b : Bool) (field : Nat) :
    f.compose b field fraction / 2 ^ f.fractionWidth =
      (if b then 2 ^ f.exponentWidth else 0) + field := by
  rw [compose_eq h, Nat.mul_add_div (Nat.two_pow_pos _), Nat.div_eq_of_lt hfr, Nat.add_zero]

variable {field : Nat} (hfi : field < 2 ^ f.exponentWidth)
include hfi

theorem compose_field (b : Bool) :
    f.compose b field fraction / 2 ^ f.fractionWidth % 2 ^ f.exponentWidth = field := by
  rw [compose_div h hfr]
  cases b
  · simpa using Nat.mod_eq_of_lt hfi
  · simpa [Nat.add_mod_left] using Nat.mod_eq_of_lt hfi

theorem isNegative_compose (b : Bool) : f.isNegative (f.compose b field fraction) = b := by
  rw [isNegative, signBit_eq h, ← Nat.div_div_eq_div_mul, compose_div h hfr]
  cases b
  · simp [Nat.div_eq_of_lt hfi]
  · simp [Nat.add_div_left _ (Nat.two_pow_pos _), Nat.div_eq_of_lt hfi]

theorem compose_lt (b : Bool) : f.compose b field fraction < 2 ^ f.width := by
  have hhigh : (if b then 2 ^ f.exponentWidth else 0) + field + 1 ≤ 2 ^ f.exponentWidth * 2 := by
    cases b <;> simp <;> omega
  rw [compose_eq h, two_pow_width h]
  calc 2 ^ f.fractionWidth * ((if b then 2 ^ f.exponentWidth else 0) + field) + fraction
      < 2 ^ f.fractionWidth * ((if b then 2 ^ f.exponentWidth else 0) + field + 1) := by
        rw [Nat.mul_add_one]
        omega
    _ ≤ 2 ^ f.fractionWidth * (2 ^ f.exponentWidth * 2) := Nat.mul_le_mul_left _ hhigh

/-- Decoding reads the three fields back. -/
theorem decode_compose (b : Bool) :
    f.decode (f.compose b field fraction) =
      if field = f.topField then (if fraction = 0 then .infinite b else .nan)
      else if field = 0 then .finite b fraction f.minExponent
      else .finite b (2 ^ f.fractionWidth + fraction) (f.minExponent + field - 1) := by
  simp only [decode, Nat.pow_eq, compose_mod h hfr, compose_field h hfr hfi,
    isNegative_compose h hfr hfi]

end Fields

theorem infinity_eq (b : Bool) : f.infinity b = f.compose b f.topField 0 := by
  simp [infinity, compose, Nat.pow_eq]

variable (h : 1 ≤ f.precision)
include h

/-- Every pattern of the format is its fields put together. -/
theorem eq_compose {p : Nat} (hp : p < 2 ^ f.width) :
    p = f.compose (f.isNegative p) (p / 2 ^ f.fractionWidth % 2 ^ f.exponentWidth)
      (p % 2 ^ f.fractionWidth) := by
  -- above the fraction stand the sign bit and the field
  have hhigh : p / 2 ^ f.fractionWidth / 2 ^ f.exponentWidth < 2 := by
    rw [Nat.div_div_eq_div_mul]
    exact Nat.div_lt_of_lt_mul (by rwa [two_pow_width h, ← Nat.mul_assoc] at hp)
  have hneg : f.isNegative p = (p / 2 ^ f.fractionWidth / 2 ^ f.exponentWidth == 1) := by
    rw [isNegative, signBit_eq h, Nat.div_div_eq_div_mul, Nat.mod_eq_of_lt (by
      rw [← Nat.div_div_eq_div_mul]; exact hhigh)]
  rw [compose_eq h, hneg]
  conv_lhs => rw [← Nat.div_add_mod p (2 ^ f.fractionWidth),
    ← Nat.div_add_mod (p / 2 ^ f.fractionWidth) (2 ^ f.exponentWidth)]
  congr 2
  interval_cases hq : p / 2 ^ f.fractionWidth / 2 ^ f.exponentWidth <;> simp

/-- Every pattern of the format is some sign, field and fraction put together. -/
theorem exists_compose {p : Nat} (hp : p < 2 ^ f.width) :
    ∃ b field fraction, field < 2 ^ f.exponentWidth ∧ fraction < 2 ^ f.fractionWidth ∧
      p = f.compose b field fraction :=
  ⟨_, _, _, Nat.mod_lt _ (Nat.two_pow_pos _), Nat.mod_lt _ (Nat.two_pow_pos _), eq_compose h hp⟩

/-- A pattern denoting a finite value is a subnormal one, with a zero field, or a normal one,
with its significand's leading bit hidden. -/
theorem decode_eq_finite {p : Nat} (hp : p < 2 ^ f.width) {s : Bool} {m : Nat} {e : Int}
    (hd : f.decode p = .finite s m e) :
    (p = f.compose s 0 m ∧ m < 2 ^ f.fractionWidth ∧ e = f.minExponent) ∨
      ∃ field, 0 < field ∧ field < f.topField ∧ p = f.compose s field (m - 2 ^ f.fractionWidth) ∧
        2 ^ f.fractionWidth ≤ m ∧ m < 2 ^ f.fractionWidth * 2 ∧ e = f.minExponent + field - 1 := by
  obtain ⟨b, field, fraction, hfi, hfr, rfl⟩ := exists_compose h hp
  have htop : f.topField = 2 ^ f.exponentWidth - 1 := by simp [topField, Nat.pow_eq]
  rw [decode_compose h hfr hfi] at hd
  by_cases htf : field = f.topField
  · rw [if_pos htf] at hd
    split at hd <;> cases hd
  · rw [if_neg htf] at hd
    by_cases hz : field = 0
    · rw [if_pos hz] at hd
      obtain ⟨rfl, rfl, rfl⟩ := Datum.finite.inj hd
      exact .inl ⟨by rw [hz], hfr, rfl⟩
    · rw [if_neg hz] at hd
      obtain ⟨rfl, rfl, rfl⟩ := Datum.finite.inj hd
      refine .inr ⟨field, Nat.pos_of_ne_zero hz, by omega, ?_, by omega, by omega, rfl⟩
      rw [Nat.add_sub_cancel_left]

/-- A pattern denoting an infinity is the pattern of that infinity. -/
theorem decode_eq_infinite {p : Nat} (hp : p < 2 ^ f.width) {s : Bool}
    (hd : f.decode p = .infinite s) : p = f.infinity s := by
  obtain ⟨b, field, fraction, hfi, hfr, rfl⟩ := exists_compose h hp
  rw [decode_compose h hfr hfi] at hd
  rw [infinity_eq]
  by_cases htf : field = f.topField
  · rw [if_pos htf] at hd
    by_cases hz : fraction = 0
    · rw [if_pos hz] at hd
      cases hd
      rw [htf, hz]
    · rw [if_neg hz] at hd
      cases hd
  · rw [if_neg htf] at hd
    split at hd <;> cases hd

end Format

/-! ## Rounding a value on the grid -/

/-- A nonzero number written with `n - log2 m` more zero bits has its top bit at `n`. -/
theorem two_pow_le_mul_shift {m n : Nat} (hm : m ≠ 0) (hL : m.log2 ≤ n) :
    2 ^ n ≤ m * 2 ^ (n - m.log2) ∧ m * 2 ^ (n - m.log2) < 2 ^ n * 2 := by
  constructor
  · calc 2 ^ n = 2 ^ m.log2 * 2 ^ (n - m.log2) := by rw [← Nat.pow_add, Nat.add_sub_cancel' hL]
      _ ≤ m * 2 ^ (n - m.log2) := Nat.mul_le_mul_right _ (Nat.log2_self_le hm)
  · calc m * 2 ^ (n - m.log2) < 2 ^ (m.log2 + 1) * 2 ^ (n - m.log2) :=
          Nat.mul_lt_mul_of_pos_right Nat.lt_log2_self (Nat.two_pow_pos _)
      _ = 2 ^ n * 2 := by
          rw [← Nat.pow_add, ← Nat.pow_succ]
          congr 1
          omega

/-- `log2` of a number written with `k` more zero bits. -/
theorem log2_mul_two_pow {m : Nat} (hm : m ≠ 0) (k : Nat) : (m * 2 ^ k).log2 = m.log2 + k := by
  rw [Nat.log2_eq_iff (Nat.mul_ne_zero hm (Nat.two_pow_pos k).ne')]
  constructor
  · rw [Nat.pow_add]
    exact Nat.mul_le_mul_right _ (Nat.log2_self_le hm)
  · rw [show m.log2 + k + 1 = (m.log2 + 1) + k by omega, Nat.pow_add]
    exact Nat.mul_lt_mul_of_pos_right Nat.lt_log2_self (Nat.two_pow_pos k)

theorem floorLog2_one {n : Nat} (hn : n ≠ 0) : floorLog2 n 1 = n.log2 := by
  have hone : Nat.log2 1 = 0 := Nat.log2_two_pow (n := 0)
  simp [floorLog2, powTwoLe, hone, Nat.log2_self_le hn]

/-- A quotient that is exact rounds to itself. -/
theorem roundScaled_exact {num den M : Nat} {shift : Int}
    (hd : 0 < (if 0 ≤ shift then den else den * 2 ^ (-shift).toNat))
    (h : (if 0 ≤ shift then num * 2 ^ shift.toNat else num) =
      M * (if 0 ≤ shift then den else den * 2 ^ (-shift).toNat)) :
    roundScaled num den shift = M := by
  unfold roundScaled
  simp only [Nat.pow_eq]
  generalize (if 0 ≤ shift then den else den * 2 ^ (-shift).toNat) = d at hd h ⊢
  rw [h, Nat.mul_div_cancel _ hd, Nat.mul_mod_left]
  simp [hd.ne]

/-- Scaling a multiple of a power of two by a power of two rounds nothing away. -/
theorem roundScaled_two_pow (m j k : Nat) :
    roundScaled (m * 2 ^ k) 1 ((j : Int) - k) = m * 2 ^ j := by
  by_cases hjk : k ≤ j
  · have hs : 0 ≤ (j : Int) - k := by omega
    have ht : ((j : Int) - k).toNat = j - k := by omega
    refine roundScaled_exact (by rw [if_pos hs]; exact Nat.one_pos) ?_
    rw [if_pos hs, if_pos hs, ht, Nat.mul_one, Nat.mul_assoc, ← Nat.pow_add,
      Nat.add_sub_cancel' hjk]
  · have hs : ¬ 0 ≤ (j : Int) - k := by omega
    have ht : (-((j : Int) - k)).toNat = k - j := by omega
    refine roundScaled_exact (by rw [if_neg hs, Nat.one_mul]; exact Nat.two_pow_pos _) ?_
    rw [if_neg hs, if_neg hs, ht, Nat.one_mul, Nat.mul_assoc, ← Nat.pow_add,
      Nat.add_sub_cancel' (by omega)]

namespace Format

variable {f : Format}

theorem round_zero (s : Bool) (den : Nat) (scale : Int) :
    f.round s 0 den scale = f.compose s 0 0 := by
  simp [round, compose]

/-- Rounding when the scaled significand `M` is found without a carry. -/
theorem round_eq {s : Bool} {num den : Nat} {scale q : Int} {M : Nat} (hnum : num ≠ 0)
    (hden : den ≠ 0)
    (hq : max (floorLog2 num den + scale) (f.minExponent + f.fractionWidth) - f.fractionWidth = q)
    (hM : roundScaled num den (scale - q) = M) (hcarry : M ≠ 2 ^ f.precision) :
    f.round s num den scale =
      if M < 2 ^ f.fractionWidth then (if s then f.signBit else 0) + M
      else if (f.topField : Int) ≤ q - f.minExponent + 1 then f.infinity s
      else (if s then f.signBit else 0) + (q - f.minExponent + 1).toNat * 2 ^ f.fractionWidth +
        (M - 2 ^ f.fractionWidth) := by
  simp only [round, Nat.pow_eq, hnum, hden, or_self, if_false, hq, hM, hcarry]

variable (h : 1 ≤ f.precision)
include h

/-- A subnormal value of the grid, its significand written with `k` more zero bits, rounds to
its own pattern. -/
theorem round_subnormal (s : Bool) {m : Nat} (hm : m ≠ 0) (hlt : m < 2 ^ f.fractionWidth)
    (k : Nat) : f.round s (m * 2 ^ k) 1 (f.minExponent - k) = f.compose s 0 m := by
  have hL : m.log2 < f.fractionWidth := (Nat.log2_lt hm).mpr hlt
  have hprec := two_pow_precision h
  rw [@round_eq f s (m * 2 ^ k) 1 (f.minExponent - k) f.minExponent m
    (Nat.mul_ne_zero hm (Nat.two_pow_pos k).ne') one_ne_zero
    (by rw [floorLog2_one (Nat.mul_ne_zero hm (Nat.two_pow_pos k).ne'), log2_mul_two_pow hm]; omega)
    (by rw [show f.minExponent - k - f.minExponent = ((0 : Nat) : Int) - k by omega,
      roundScaled_two_pow, pow_zero, mul_one])
    (by omega), if_pos hlt]
  simp [compose]

/-- A value of normal magnitude whose significand needs no more than the format's bits, written
with `k` more zero bits, rounds to the normal pattern of its exponent. -/
theorem round_normal (s : Bool) {m k : Nat} {scale : Int} (hm : m ≠ 0)
    (hL : m.log2 ≤ f.fractionWidth)
    (hnorm : f.minExponent + f.fractionWidth ≤ m.log2 + k + scale)
    (htop : m.log2 + k + scale - f.fractionWidth - f.minExponent + 1 < f.topField) :
    f.round s (m * 2 ^ k) 1 scale =
      f.compose s (m.log2 + k + scale - f.fractionWidth - f.minExponent + 1).toNat
        (m * 2 ^ (f.fractionWidth - m.log2) - 2 ^ f.fractionWidth) := by
  -- the significand scaled to the format's bits fills them exactly
  obtain ⟨hlo, hhi⟩ := two_pow_le_mul_shift hm hL
  have hprec := two_pow_precision h
  rw [@round_eq f s (m * 2 ^ k) 1 scale (m.log2 + k + scale - f.fractionWidth)
    (m * 2 ^ (f.fractionWidth - m.log2)) (Nat.mul_ne_zero hm (Nat.two_pow_pos k).ne') one_ne_zero
    (by rw [floorLog2_one (Nat.mul_ne_zero hm (Nat.two_pow_pos k).ne'), log2_mul_two_pow hm]; omega)
    (by rw [show scale - (m.log2 + k + scale - f.fractionWidth) =
        ((f.fractionWidth - m.log2 : Nat) : Int) - k by omega, roundScaled_two_pow])
    (by omega), if_neg (by omega), if_neg (by omega)]
  simp only [compose]

/-- Rounding a value of the grid, its significand written with `k` more zero bits, gives the
pattern denoting it. -/
theorem round_decode {p : Nat} (hp : p < 2 ^ f.width) {s : Bool} {m : Nat} {e : Int}
    (hd : f.decode p = .finite s m e) (k : Nat) : f.round s (m * 2 ^ k) 1 (e - k) = p := by
  rcases decode_eq_finite h hp hd with ⟨rfl, hlt, rfl⟩ | ⟨field, h0, htop, rfl, hlo, hhi, rfl⟩
  · by_cases hm : m = 0
    · subst hm
      rw [Nat.zero_mul, round_zero]
    · exact round_subnormal h s hm hlt k
  · have hm : m ≠ 0 := by
      have := Nat.two_pow_pos f.fractionWidth
      omega
    have hL : m.log2 = f.fractionWidth := (Nat.log2_eq_iff hm).mpr ⟨hlo, by rwa [Nat.pow_succ]⟩
    rw [round_normal h s hm hL.le (by omega) (by omega), hL, Nat.sub_self, pow_zero, mul_one]
    congr 1
    omega

end Format

end Parley.Binary

namespace Parley

open Binary

theorem Binary32.ofPattern_pattern (x : Binary32) : Binary32.ofPattern x.pattern = x := by
  cases x
  simp [ofPattern, pattern]

theorem Binary32.pattern_lt (x : Binary32) : x.pattern < 2 ^ Format.single.width :=
  x.bits.toNat_lt

theorem Binary64.pattern_ofPattern {n : Nat} (h : n < 2 ^ Format.double.width) :
    (Binary64.ofPattern n).pattern = n := by
  simp only [ofPattern, pattern]
  exact Nat.mod_eq_of_lt h

theorem Format.single_fields : Format.single.fractionWidth = 23 ∧
    Format.single.minExponent = -149 ∧ Format.single.topField = 255 := by
  decide

theorem Format.double_fields : 1 ≤ Format.double.precision ∧ Format.double.fractionWidth = 52 ∧
    Format.double.exponentWidth = 11 ∧ Format.double.minExponent = -1074 ∧
    Format.double.topField = 2047 := by
  decide

/-- A finite single has a significand of at most 24 bits and a value within the single range;
zero has the least exponent. -/
theorem Binary32.datum_range {x : Binary32} {s : Bool} {m : Nat} {e : Int}
    (hd : x.datum = .finite s m e) :
    m < 2 ^ 24 ∧ -149 ≤ e ∧ (m ≠ 0 → m.log2 + e ≤ 127) ∧ (m = 0 → e = -149) := by
  obtain ⟨hs₁, hs₂, hs₃⟩ := Format.single_fields
  rcases Format.decode_eq_finite (by decide) x.pattern_lt hd with
    ⟨-, hlt, rfl⟩ | ⟨field, h0, htop, -, hlo, hhi, rfl⟩
  · -- subnormal: fewer than 23 bits at the least exponent
    rw [hs₁] at hlt
    refine ⟨by omega, by omega, fun hm => ?_, fun _ => hs₂⟩
    have := (Nat.log2_lt hm).mpr hlt
    omega
  · -- normal: exactly 24 bits, the field below the top one
    rw [hs₁] at hlo hhi
    have hm : m ≠ 0 := by omega
    have hL : m.log2 = 23 := (Nat.log2_eq_iff hm).mpr ⟨hlo, by omega⟩
    refine ⟨by omega, by omega, fun _ => by omega, fun h => absurd h hm⟩

/-- Zero as a double keeps its sign, at the least exponent. -/
theorem Binary64.datum_round_zero (s : Bool) (e : Int) :
    (Binary64.round s 0 1 e).datum = .finite s 0 (-1074) := by
  obtain ⟨hd₀, -, -, hd₃, hd₄⟩ := Format.double_fields
  rw [Binary64.datum, Binary64.round, Format.round_zero, Binary64.pattern_ofPattern
    (Format.compose_lt hd₀ (Nat.two_pow_pos _) (Nat.two_pow_pos _) s),
    Format.decode_compose hd₀ (Nat.two_pow_pos _) (Nat.two_pow_pos _), hd₃, hd₄,
    if_neg (by decide), if_pos rfl]

/-- A nonzero value of the single range is a normal double, its significand written with 53
bits. -/
theorem Binary64.datum_round_of_single {s : Bool} {m : Nat} {e : Int} (hm : m ≠ 0)
    (hlt : m < 2 ^ 24) (hlo : -149 ≤ e) (htop : m.log2 + e ≤ 127) :
    (Binary64.round s m 1 e).datum =
      .finite s (m * 2 ^ (52 - m.log2)) (e - (52 - m.log2 : Nat)) := by
  obtain ⟨hd₀, hd₁, hd₂, hd₃, hd₄⟩ := Format.double_fields
  have hL : m.log2 < 24 := (Nat.log2_lt hm).mpr hlt
  obtain ⟨F, hF, hround⟩ : ∃ F : Nat, (F : Int) = m.log2 + e + 1023 ∧
      Format.double.round s m 1 e =
        Format.double.compose s F (m * 2 ^ (52 - m.log2) - 2 ^ 52) := by
    have := @Format.round_normal Format.double hd₀ s m 0 e hm (by omega) (by omega) (by omega)
    rw [pow_zero, mul_one, hd₁] at this
    exact ⟨_, by rw [Int.toNat_of_nonneg (by omega)]; omega, this⟩
  -- the double's significand: the single's with `52 - log2 m` more zero bits
  obtain ⟨hM₁, hM₂⟩ := @two_pow_le_mul_shift m 52 hm (by omega)
  have hfr : m * 2 ^ (52 - m.log2) - 2 ^ 52 < 2 ^ Format.double.fractionWidth := by
    rw [hd₁]
    omega
  have hfi : F < 2 ^ Format.double.exponentWidth := by
    rw [hd₂]
    omega
  rw [Binary64.datum, Binary64.round, hround, Binary64.pattern_ofPattern
    (Format.compose_lt hd₀ hfr hfi s), Format.decode_compose hd₀ hfr hfi, hd₄, hd₁, hd₃,
    if_neg (by omega), if_neg (by omega), Datum.finite.injEq]
  refine ⟨rfl, ?_, ?_⟩
  · omega
  · omega

/-- Widening a finite single writes its significand with more zero bits and keeps its value. -/
theorem Binary32.datum_toBinary64 {x : Binary32} {s : Bool} {m : Nat} {e : Int}
    (hd : x.datum = .finite s m e) :
    ∃ k : Nat, x.toBinary64.datum = .finite s (m * 2 ^ k) (e - k) := by
  obtain ⟨hlt, hlo, htop, hzero⟩ := datum_range hd
  unfold toBinary64
  rw [hd]
  dsimp only
  by_cases hm : m = 0
  · -- zero sits at the least exponent of either format, 925 binary places apart
    subst hm
    refine ⟨925, ?_⟩
    rw [Binary64.datum_round_zero, Nat.zero_mul, hzero rfl, Datum.finite.injEq]
    exact ⟨rfl, rfl, by omega⟩
  · exact ⟨52 - m.log2, Binary64.datum_round_of_single hm hlt hlo (htop hm)⟩

/-- A single with a NaN made the quiet NaN; every other single is kept bit for bit. -/
def Binary32.quiet (x : Binary32) : Binary32 := if x.isNaN then Binary32.nan else x

theorem Binary32.quiet_of_not_isNaN {x : Binary32} (h : x.isNaN = false) : x.quiet = x := by
  rw [quiet, if_neg (by simp [h])]

@[simp] theorem Binary32.isNaN_quiet (x : Binary32) : x.quiet.isNaN = x.isNaN := by
  unfold quiet
  split
  · rename_i h
    rw [h]
    decide
  · rfl

/-- Widening a single to a double and rounding it back gives the single again; a NaN comes
back as the quiet NaN. -/
theorem Binary32.toBinary32_toBinary64 (x : Binary32) : x.toBinary64.toBinary32 = x.quiet := by
  unfold quiet
  cases hd : x.datum with
  | nan =>
      have hnan : x.isNaN = true := by simp [isNaN, hd]
      rw [if_pos hnan, toBinary64, hd]
      decide
  | infinite s =>
      have hnan : x.isNaN = false := by simp [isNaN, hd]
      rw [if_neg (by simp [hnan]), toBinary64, hd]
      -- an infinity of the single format is the single infinity of its sign
      have hx : x = Binary32.infinity s := by
        rw [← x.ofPattern_pattern, Format.decode_eq_infinite (by decide) x.pattern_lt hd]
        rfl
      rw [hx]
      cases s <;> decide
  | finite s m e =>
      have hnan : x.isNaN = false := by simp [isNaN, hd]
      obtain ⟨k, hk⟩ := datum_toBinary64 hd
      rw [if_neg (by simp [hnan]), Binary64.toBinary32, hk]
      dsimp only
      rw [Binary32.round, Format.round_decode (by decide) x.pattern_lt hd k, ofPattern_pattern]

end Parley
