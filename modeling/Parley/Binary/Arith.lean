import Parley.Binary.Format

/-!
# Correctly rounded arithmetic on bit patterns

Each operation decodes its operands, computes the exact result as a rational number and
rounds it once with `Format.round`. The special cases are those of the IEEE 754 standard in
the round-to-nearest mode: a NaN operand gives the quiet NaN, `∞ - ∞`, `0 * ∞`, `0 / 0`,
`∞ / ∞` and the root of a negative number are NaN, and an exact zero sum is `+0` unless both
addends are `-0`.
-/

namespace Parley.Binary

namespace Format

/-- The zero pattern of the given sign. -/
def zero (f : Format) (negative : Bool) : Nat := if negative then f.signBit else 0

/-- The sum of two patterns. -/
def add (f : Format) (a b : Nat) : Nat :=
  match f.decode a, f.decode b with
  | .nan, _ => f.quietNaN
  | _, .nan => f.quietNaN
  | .infinite s, .infinite t => if s = t then f.infinity s else f.quietNaN
  | .infinite s, .finite .. => f.infinity s
  | .finite .., .infinite t => f.infinity t
  | .finite s m e, .finite t n g =>
    let low := min e g
    let x := m * Nat.pow 2 (e - low).toNat
    let y := n * Nat.pow 2 (g - low).toNat
    if s = t then
      if x + y = 0 then f.zero s else f.round s (x + y) 1 low
    else if x = y then f.zero false
    else if y < x then f.round s (x - y) 1 low
    else f.round t (y - x) 1 low

/-- The difference of two patterns: the sum with the second negated. -/
def sub (f : Format) (a b : Nat) : Nat := f.add a (f.negate b)

/-- The product of two patterns. -/
def mul (f : Format) (a b : Nat) : Nat :=
  match f.decode a, f.decode b with
  | .nan, _ => f.quietNaN
  | _, .nan => f.quietNaN
  | .infinite s, .infinite t => f.infinity (s != t)
  | .infinite s, .finite t m _ => if m = 0 then f.quietNaN else f.infinity (s != t)
  | .finite s m _, .infinite t => if m = 0 then f.quietNaN else f.infinity (s != t)
  | .finite s m e, .finite t n g => f.round (s != t) (m * n) 1 (e + g)

/-- The quotient of two patterns. -/
def div (f : Format) (a b : Nat) : Nat :=
  match f.decode a, f.decode b with
  | .nan, _ => f.quietNaN
  | _, .nan => f.quietNaN
  | .infinite _, .infinite _ => f.quietNaN
  | .infinite s, .finite t _ _ => f.infinity (s != t)
  | .finite s _ _, .infinite t => f.zero (s != t)
  | .finite s m e, .finite t n g =>
    if n = 0 then (if m = 0 then f.quietNaN else f.infinity (s != t))
    else f.round (s != t) m n (e - g)

/-- The square root of a pattern. The radicand is scaled by `4 ^ (precision + 2)` so that the
integer root carries two bits more than the format keeps; an inexact root then rounds as the
midpoint of its two integer neighbours would, because no rounding boundary lies between them. -/
def sqrt (f : Format) (a : Nat) : Nat :=
  match f.decode a with
  | .nan => f.quietNaN
  | .infinite false => f.infinity false
  | .infinite true => f.quietNaN
  | .finite s m e =>
    if m = 0 then a
    else if s then f.quietNaN
    else
      let odd := e % 2 = 1
      let m := if odd then 2 * m else m
      let e := if odd then e - 1 else e
      let k := f.precision + 2
      let radicand := m * Nat.pow 4 k
      let r := Nat.sqrt radicand
      if r * r = radicand then f.round false r 1 (e / 2 - k)
      else f.round false (2 * r + 1) 2 (e / 2 - k)

/-- Compare `m * 2 ^ e` with `n * 2 ^ g`. -/
def compareScaled (m : Nat) (e : Int) (n : Nat) (g : Int) : Ordering :=
  let low := min e g
  compare (m * Nat.pow 2 (e - low).toNat) (n * Nat.pow 2 (g - low).toNat)

/-- The order of two decoded numbers, neither a NaN. The zeros of both signs are equal. -/
def compareData : Datum → Datum → Ordering
  | .infinite s, .infinite t => if s = t then .eq else if s then .lt else .gt
  | .infinite s, _ => if s then .lt else .gt
  | _, .infinite t => if t then .gt else .lt
  | .finite s m e, .finite t n g =>
    if m = 0 ∧ n = 0 then .eq
    else if s ≠ t then (if s then .lt else .gt)
    else if s then compareScaled n g m e
    else compareScaled m e n g
  | _, _ => .eq

/-- The order of two patterns as numbers, or `none` when either is a NaN. -/
def compare? (f : Format) (a b : Nat) : Option Ordering :=
  match f.decode a, f.decode b with
  | .nan, _ => none
  | _, .nan => none
  | x, y => some (compareData x y)

end Format

end Parley.Binary
