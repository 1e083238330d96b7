import Parley.Decimal.Basic

/-!
# Reading a decimal as a double

Two rules are used. `Decimal.toBinary64` gives the double nearest to the decimal, a tie going
to the even significand. `Decimal.scaled` is the quicker rule of data interchange readers: the
significand is first rounded to a double, then multiplied or divided by the double nearest to
the power of ten, each step rounding once. It fails when a positive power makes the result
infinite; negative powers beyond `10 ^ 308` are applied in steps of `10 ^ 308` until the
remaining power fits or the value has become zero.
-/

namespace Parley

namespace Decimal

/-- The double nearest to `(-1) ^ negative * d`. -/
def toBinary64 (negative : Bool) (d : Decimal) : Binary64 :=
  if 0 ≤ d.exponent then
    Binary64.round negative (d.significand * Nat.pow 5 d.exponent.toNat) 1 d.exponent
  else
    Binary64.round negative d.significand (Nat.pow 5 (-d.exponent).toNat) d.exponent

/-- The double nearest to `10 ^ k`. -/
def powerOfTen (k : Nat) : Binary64 := Binary64.ofNat (Nat.pow 10 k)

/-- The largest power of ten applied in one step. -/
def largestStep : Nat := 308

/-- Scale `f` by `10 ^ exponent` in steps; `none` when the result overflows. -/
def scaleSteps (f : Binary64) : Int → Nat → Option Binary64
  | _, 0 => some f
  | exponent, fuel + 1 =>
    if exponent.natAbs ≤ largestStep then
      if 0 ≤ exponent then
        let g := f.mul (powerOfTen exponent.toNat)
        if g.isFinite then some g else none
      else some (f.div (powerOfTen exponent.natAbs))
    else if f.eqNum Binary64.zero then some f
    else if 0 ≤ exponent then none
    else scaleSteps (f.div (powerOfTen largestStep)) (exponent + largestStep) fuel

/-- `(-1) ^ negative * significand * 10 ^ exponent` by the stepwise rule; `none` when it
overflows. -/
def scaled (negative : Bool) (significand : Nat) (exponent : Int) : Option Binary64 :=
  let fuel := exponent.natAbs / largestStep + 2
  (scaleSteps (Binary64.ofNat significand) exponent fuel).map fun f =>
    if negative then f.neg else f

end Decimal

end Parley
