import Parley.Binary.Value

/-!
# Decimal numbers

A `Decimal` is `significand * 10 ^ exponent` with a natural significand; the sign is kept
beside it by the callers. The comparisons here are exact: a decimal is weighed against a
binary fraction `b * 2 ^ j` by clearing the negative powers to the other side.
-/

namespace Parley

/-- The number `significand * 10 ^ exponent`. -/
structure Decimal where
  significand : Nat
  exponent : Int
  deriving DecidableEq, Repr, Inhabited

namespace Decimal

/-- Compare `a * 10 ^ k` with `b * 2 ^ j`. Both sides are multiplied by
`10 ^ max (-k) 0 * 2 ^ max (-j) 0`, which leaves natural numbers only. -/
def compareBinary (a : Nat) (k : Int) (b : Nat) (j : Int) : Ordering :=
  compare (a * Nat.pow 10 k.toNat * Nat.pow 2 (-j).toNat) (b * Nat.pow 2 j.toNat * Nat.pow 10 (-k).toNat)

/-- Whether `10 ^ t ≤ m * 2 ^ e`. -/
def powTenLe (t : Int) (m : Nat) (e : Int) : Bool :=
  compareBinary 1 t m e != .gt

/-- Move an estimate of the decimal exponent up or down until `10 ^ t ≤ m * 2 ^ e < 10 ^ (t+1)`;
`fuel` bounds the number of steps. -/
def settleLog10 (m : Nat) (e : Int) : Nat → Int → Int
  | 0, t => t
  | fuel + 1, t =>
    if powTenLe (t + 1) m e then settleLog10 m e fuel (t + 1)
    else if powTenLe t m e then t
    else settleLog10 m e fuel (t - 1)

/-- The exponent of the leading decimal digit of the positive number `m * 2 ^ e`. The estimate
from the bit length, times `0.30103`, is at most two away from it. -/
def floorLog10 (m : Nat) (e : Int) : Int :=
  let bits : Int := (Nat.log2 m : Int) + e
  settleLog10 m e 4 (bits * 30103 / 100000)

/-- The decimal digits of a natural number, most significant first; `0` has the digit `0`. -/
def digitsOf (n : Nat) : List Nat :=
  (Nat.toDigits 10 n).map fun c => c.toNat - '0'.toNat

/-- The same number with the trailing zeros of the significand moved into the exponent.
Zero is left alone. -/
def normalize (d : Decimal) : Decimal :=
  go d.significand d.exponent (Nat.log2 d.significand + 1)
where
  go (s : Nat) (e : Int) : Nat → Decimal
    | 0 => ⟨s, e⟩
    | fuel + 1 => if s ≠ 0 ∧ s % 10 = 0 then go (s / 10) (e + 1) fuel else ⟨s, e⟩

end Decimal

end Parley
