import Parley.Decimal.Shortest

/-!
# Writing a decimal

A `Layout` is the set of decisions that turn a double into text: which of two shortest decimals
equally near it is written, which leading exponents are written positionally, how a whole
number ends, and how an exponent is marked. The digits themselves are always those of
`Decimal.normalize`.
-/

namespace Parley

namespace Decimal

/-- How a number is laid out as text. The leading exponent of a nonzero number is the
exponent of its first significant digit. -/
structure Layout where
  /-- Leading exponents below this one are written with an exponent (`none`: never). -/
  positionalFrom : Option Int
  /-- Leading exponents from this one up are written with an exponent (`none`: never). -/
  positionalUntil : Option Int
  /-- Appended to a number written positionally without a fractional part. -/
  wholeSuffix : String
  /-- Whether a positive exponent carries a plus sign. -/
  plusExponent : Bool
  /-- Which of two shortest decimals equally near the double is written. -/
  tie : Tie

/-- The digits of a natural number as text. -/
def digitText (n : Nat) : String := String.ofList (Nat.toDigits 10 n)

/-- `n` zeros. -/
def zeros (n : Nat) : String := String.ofList (List.replicate n '0')

/-- The number written without an exponent. -/
def positional (layout : Layout) (d : Decimal) : String :=
  let s := digitText d.significand
  let n : Int := s.length
  if 0 ≤ d.exponent then s ++ zeros d.exponent.toNat ++ layout.wholeSuffix
  else if 0 < n + d.exponent then
    let cut := (n + d.exponent).toNat
    String.ofList (s.toList.take cut) ++ "." ++ String.ofList (s.toList.drop cut)
  else "0." ++ zeros (-(n + d.exponent)).toNat ++ s

/-- The number written as one digit, the other digits after a point, and an exponent. -/
def scientific (layout : Layout) (d : Decimal) : String :=
  let s := (digitText d.significand).toList
  let lead : Int := s.length + d.exponent - 1
  let mantissa := match s with
    | c :: rest@(_ :: _) => String.ofList (c :: '.' :: rest)
    | _ => String.ofList s
  let sign := if lead < 0 then "-" else if layout.plusExponent then "+" else ""
  mantissa ++ "e" ++ sign ++ toString lead.natAbs

/-- The text of a signed decimal. -/
def write (layout : Layout) (negative : Bool) (d : Decimal) : String :=
  let d := d.normalize
  let lead : Int := (digitText d.significand).length + d.exponent - 1
  let below : Bool := match layout.positionalFrom with
    | some lo => d.significand != 0 && decide (lead < lo)
    | none => false
  let above : Bool := match layout.positionalUntil with
    | some hi => d.significand != 0 && decide (hi ≤ lead)
    | none => false
  let body := if below || above then scientific layout d else positional layout d
  (if negative then "-" else "") ++ body

/-- Numbers in data interchange: positional from `1e-5` up to below `1e16`, whole numbers
with `.0`, and an exponent with its sign, as in `1e-7` and `1.25e+17`; a tie goes to the even
last digit. -/
def interchange : Layout := ⟨some (-5), some 16, ".0", true, .even⟩

/-- Numbers in messages: always positional, whole numbers with `.0`; a tie goes to the greater
decimal. -/
def message : Layout := ⟨none, none, ".0", false, .up⟩

end Decimal

/-- The shortest text of a finite double in the given layout; `none` for a NaN or an
infinity. -/
def Binary64.text? (layout : Decimal.Layout) (x : Binary64) : Option String :=
  (x.toDecimal? layout.tie).map fun (s, d) => Decimal.write layout s d

end Parley
