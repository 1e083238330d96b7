/-!
# Binary interchange formats

A floating-point datum is kept as its bit pattern, a natural number below `2 ^ width`. A
`Format` fixes the widths of the fields: `Format.decode` reads a pattern as a NaN, a signed
infinity or a signed finite value `significand * 2 ^ exponent`, and `Format.round` gives the
pattern of the datum nearest to an exact signed rational `num / den * 2 ^ scale`, a tie going
to the even significand and a magnitude past the largest finite datum to infinity.

## Implementation notes

Everything here is arithmetic on natural numbers and integers, so two data are equal exactly
when their patterns are, and every conversion can be evaluated inside a proof.
-/

namespace Parley.Binary

/-- A binary interchange format: `precision` bits of significand, the hidden bit included,
and an exponent field `exponentWidth` bits wide. -/
structure Format where
  precision : Nat
  exponentWidth : Nat
  deriving DecidableEq, Repr

namespace Format

/-- The 32-bit format. -/
def single : Format := ⟨24, 8⟩

/-- The 64-bit format. -/
def double : Format := ⟨53, 11⟩

/-- Bits of the stored fraction. -/
def fractionWidth (f : Format) : Nat := f.precision - 1

/-- Bits of a whole pattern: sign, exponent field and fraction. -/
def width (f : Format) : Nat := f.precision + f.exponentWidth

/-- The exponent bias. -/
def bias (f : Format) : Nat := Nat.pow 2 (f.exponentWidth - 1) - 1

/-- The exponent field of infinities and NaNs. -/
def topField (f : Format) : Nat := Nat.pow 2 f.exponentWidth - 1

/-- The weight of the sign bit. -/
def signBit (f : Format) : Nat := Nat.pow 2 (f.width - 1)

/-- The exponent of the last significand bit of every subnormal datum. -/
def minExponent (f : Format) : Int := 1 - (f.bias : Int) - f.fractionWidth

/-- The pattern of the infinity of the given sign. -/
def infinity (f : Format) (negative : Bool) : Nat :=
  (if negative then f.signBit else 0) + f.topField * Nat.pow 2 f.fractionWidth

/-- The pattern of the quiet NaN with an empty payload. -/
def quietNaN (f : Format) : Nat :=
  f.topField * Nat.pow 2 f.fractionWidth + Nat.pow 2 (f.fractionWidth - 1)

/-- Whether the sign bit of a pattern is set. -/
def isNegative (f : Format) (bits : Nat) : Bool :=
  bits / f.signBit % 2 == 1

/-- The pattern with its sign bit flipped. -/
def negate (f : Format) (bits : Nat) : Nat :=
  if f.isNegative bits then bits - f.signBit else bits + f.signBit

end Format

/-- What a bit pattern denotes. A finite datum is `(-1) ^ negative * significand * 2 ^ exponent`;
zero has significand `0` and keeps its sign. -/
inductive Datum where
  | nan
  | infinite (negative : Bool)
  | finite (negative : Bool) (significand : Nat) (exponent : Int)
  deriving DecidableEq, Repr

namespace Format

/-- Read a bit pattern. A zero exponent field is subnormal, the top field is infinite or NaN. -/
def decode (f : Format) (bits : Nat) : Datum :=
  let fraction := bits % Nat.pow 2 f.fractionWidth
  let field := bits / Nat.pow 2 f.fractionWidth % Nat.pow 2 f.exponentWidth
  let negative := f.isNegative bits
  if field = f.topField then
    if fraction = 0 then .infinite negative else .nan
  else if field = 0 then .finite negative fraction f.minExponent
  else .finite negative (Nat.pow 2 f.fractionWidth + fraction) (f.minExponent + field - 1)

end Format

/-- Whether `2 ^ t ≤ num / den`. -/
def powTwoLe (t : Int) (num den : Nat) : Bool :=
  if 0 ≤ t then den * Nat.pow 2 t.toNat ≤ num else den ≤ num * Nat.pow 2 (-t).toNat

/-- The largest `k` with `2 ^ k ≤ num / den`, for positive `num` and `den`: the estimate from
the bit lengths is exact or one too large. -/
def floorLog2 (num den : Nat) : Int :=
  let t : Int := (Nat.log2 num : Int) - Nat.log2 den
  if powTwoLe t num den then t else t - 1

/-- `num / den * 2 ^ shift` rounded to the nearest natural number, a tie going to the even
one. -/
def roundScaled (num den : Nat) (shift : Int) : Nat :=
  let n := if 0 ≤ shift then num * Nat.pow 2 shift.toNat else num
  let d := if 0 ≤ shift then den else den * Nat.pow 2 (-shift).toNat
  let q := n / d
  let r := n % d
  if d < 2 * r ∨ (2 * r = d ∧ q % 2 = 1) then q + 1 else q

namespace Format

/-- The pattern of the datum nearest to `(-1) ^ negative * num / den * 2 ^ scale`, a tie going
to the even significand. Past the largest finite datum the result is infinite; a zero
numerator gives the zero of the given sign. -/
def round (f : Format) (negative : Bool) (num den : Nat) (scale : Int) : Nat :=
  let sign := if negative then f.signBit else 0
  if num = 0 ∨ den = 0 then sign
  else
    let top := floorLog2 num den + scale
    let quantum := max top (f.minExponent + f.fractionWidth) - f.fractionWidth
    let m := roundScaled num den (scale - quantum)
    -- rounding up may carry into the next binade
    let carry := m = Nat.pow 2 f.precision
    let m := if carry then Nat.pow 2 f.fractionWidth else m
    let quantum := if carry then quantum + 1 else quantum
    if m < Nat.pow 2 f.fractionWidth then sign + m
    else
      let field := quantum - f.minExponent + 1
      if (f.topField : Int) ≤ field then f.infinity negative
      else sign + field.toNat * Nat.pow 2 f.fractionWidth + (m - Nat.pow 2 f.fractionWidth)

/-- The pattern of a finite datum, rounded to the format. -/
def encode (f : Format) (negative : Bool) (significand : Nat) (exponent : Int) : Nat :=
  f.round negative significand 1 exponent

end Format

end Parley.Binary
