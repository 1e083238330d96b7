import Parley.Decimal.Basic

/-!
# Shortest decimal of a double

The decimal written for a double is the one with the fewest significant digits that reads
back as that double, and of two such the nearer. When both are equally near, `Tie` says which
is taken: the one with the even last digit, or the greater.

## Implementation notes

A positive finite double `m * 2 ^ e` reads back from every real in its rounding interval:
half the gap to each neighbour on either side, ends included exactly when `m` is even, as
reading rounds ties to even. The gap below is half as wide when `m` is the least significand
of a binade above the lowest. For `n = 1, 2, …, 17` digits the two neighbours of the value on
the grid `10 ^ (t - n + 1)`, `t` the exponent of the leading digit, are tested against the
interval; the first `n` with a hit wins. Seventeen digits always hit, so the search ends.
-/

namespace Parley

namespace Decimal

/-- Which of two shortest decimals equally near the double is taken: the one whose last digit
is even, or the greater. -/
inductive Tie where
  | even
  | up
  deriving DecidableEq, Repr

/-- The rounding interval of `m * 2 ^ e`, as bounds `(4m - below) * 2 ^ (e - 2)` and
`(4m + 2) * 2 ^ (e - 2)`, with the flag saying whether the bounds read back. -/
structure Interval where
  m : Nat
  e : Int
  below : Nat
  closed : Bool

/-- Whether `c * 10 ^ k` lies in the interval. -/
def Interval.contains (iv : Interval) (c : Nat) (k : Int) : Bool :=
  let lowOk := match compareBinary c k (4 * iv.m - iv.below) (iv.e - 2) with
    | .gt => true
    | .eq => iv.closed
    | .lt => false
  let highOk := match compareBinary c k (4 * iv.m + 2) (iv.e - 2) with
    | .lt => true
    | .eq => iv.closed
    | .gt => false
  lowOk && highOk

/-- The candidate with `n` significant digits, if one of the two grid neighbours of the value
lies in the interval. -/
def attempt (tie : Tie) (iv : Interval) (lead : Int) (n : Nat) : Option Decimal :=
  let k := lead - n + 1
  let num := iv.m * Nat.pow 2 iv.e.toNat * Nat.pow 10 (-k).toNat
  let den := Nat.pow 2 (-iv.e).toNat * Nat.pow 10 k.toNat
  let lo := num / den
  let exact := num % den = 0
  let hi := lo + 1
  let loIn := iv.contains lo k
  let hiIn := !exact && iv.contains hi k
  if loIn && hiIn then
    -- the nearer of the two: compare the value with their midpoint
    match compareBinary (2 * lo + 1) k (2 * iv.m) iv.e with
    | .gt => some ⟨lo, k⟩
    | .lt => some ⟨hi, k⟩
    | .eq =>
      match tie with
      | .even => some (if lo % 2 = 0 then ⟨lo, k⟩ else ⟨hi, k⟩)
      | .up => some ⟨hi, k⟩
  else if loIn then some ⟨lo, k⟩
  else if hiIn then some ⟨hi, k⟩
  else none

/-- The shortest decimal reading back as the positive double `m * 2 ^ e`, where `closerBelow`
says that the next double below is half as far as the next one above, and `tie` settles ties. -/
def shortestOf (tie : Tie) (m : Nat) (e : Int) (closerBelow : Bool) : Decimal :=
  let iv : Interval := ⟨m, e, if closerBelow then 1 else 2, m % 2 = 0⟩
  let lead := floorLog10 m e
  let found := (List.range 17).findSome? fun i => attempt tie iv lead (i + 1)
  normalize (found.getD ⟨m * Nat.pow 2 e.toNat, 0⟩)

end Decimal

/-- The sign and the shortest decimal of a finite double, `tie` settling ties; `none` for a NaN
or an infinity. Zero is `0` with its sign. -/
def Binary64.toDecimal? (tie : Decimal.Tie) (x : Binary64) : Option (Bool × Decimal) :=
  match x.datum with
  | .finite s m e =>
    if m = 0 then some (s, ⟨0, 0⟩)
    else
      let closerBelow := m = Nat.pow 2 Binary.Format.double.fractionWidth ∧
        Binary.Format.double.minExponent < e
      some (s, Decimal.shortestOf tie m e closerBelow)
  | _ => none

end Parley
