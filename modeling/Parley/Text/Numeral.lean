import Parley.Decimal.Reading

/-!
# Numbers written as text

`parseInteger` reads an integer of a bounded type: an optional sign, then at least one digit of
the radix, the whole text and nothing else. A minus sign is only read for a signed type; for an
unsigned one it is a bad digit. Digits are taken from the left, and the first that is not a
digit of the radix, or that carries the value out of range, decides the error.

`parseFloat?` reads a decimal floating point number: an optional sign, digits with an optional
point and at least one digit on either side of it, and an optional exponent; or `inf`,
`infinity` or `nan` in any mix of cases. The value is the double nearest to the decimal.
-/

namespace Parley

namespace Text

/-- Why a text is not an integer of the type asked for. -/
inductive IntegerError where
  | empty
  | invalidDigit
  | tooLarge
  | tooSmall
  deriving DecidableEq, Repr

/-- The text of an integer error. -/
def IntegerError.message : IntegerError → String
  | .empty => "cannot parse integer from empty string"
  | .invalidDigit => "invalid digit found in string"
  | .tooLarge => "number too large to fit in target type"
  | .tooSmall => "number too small to fit in target type"

/-- The value of a digit in a radix up to 36. -/
def digitIn (radix : Nat) (c : Char) : Option Nat :=
  let v :=
    if c.isDigit then some (c.toNat - '0'.toNat)
    else if 'a' ≤ c && c ≤ 'z' then some (c.toNat - 'a'.toNat + 10)
    else if 'A' ≤ c && c ≤ 'Z' then some (c.toNat - 'A'.toNat + 10)
    else none
  v.filter (· < radix)

/-- Take digits from the left into `acc`, adding them for a positive value and subtracting them
for a negative one, and stop at the first bad digit or the first step out of `[lo, hi]`. -/
def accumulate (radix : Nat) (positive : Bool) (lo hi : Int) : List Char → Int → Except IntegerError Int
  | [], acc => .ok acc
  | c :: rest, acc =>
    match digitIn radix c with
    | none => .error .invalidDigit
    | some d =>
      let next := if positive then acc * radix + d else acc * radix - d
      if positive && hi < next then .error .tooLarge
      else if !positive && next < lo then .error .tooSmall
      else accumulate radix positive lo hi rest next

/-- Read an integer in `[lo, hi]`; the type is signed when `lo` is negative. -/
def parseInteger (text : String) (radix : Nat) (lo hi : Int) : Except IntegerError Int :=
  match text.toList with
  | [] => .error .empty
  | ['+'] => .error .invalidDigit
  | ['-'] => .error .invalidDigit
  | '+' :: rest => accumulate radix true lo hi rest 0
  | '-' :: rest =>
    if lo < 0 then accumulate radix false lo hi rest 0
    else accumulate radix true lo hi ('-' :: rest) 0
  | cs => accumulate radix true lo hi cs 0

/-- Split off the leading decimal digits. -/
def spanDigits (cs : List Char) : List Char × List Char := (cs.takeWhile Char.isDigit, cs.dropWhile Char.isDigit)

/-- The number the decimal digits stand for. -/
def digitsValue (ds : List Char) : Nat := ds.foldl (fun n c => 10 * n + (c.toNat - '0'.toNat)) 0

/-- The exponent part after `e`: an optional sign and at least one digit, to the end. -/
def exponentOf? (cs : List Char) : Option Int :=
  let (negative, rest) := match cs with
    | '+' :: r => (false, r)
    | '-' :: r => (true, r)
    | r => (false, r)
  let (ds, tail) := spanDigits rest
  if ds.isEmpty || !tail.isEmpty then none
  else
    let v : Int := digitsValue ds
    some (if negative then -v else v)

/-- The significand and exponent of an unsigned decimal literal. -/
def decimalOf? (cs : List Char) : Option (Nat × Int) :=
  let (whole, rest) := spanDigits cs
  let (frac, rest) := match rest with
    | '.' :: r => spanDigits r
    | r => ([], r)
  if whole.isEmpty && frac.isEmpty then none
  else
    let exponent? : Option Int := match rest with
      | [] => some 0
      | c :: r => if c = 'e' || c = 'E' then exponentOf? r else none
    exponent?.map fun e => (digitsValue (whole ++ frac), e - frac.length)

/-- The double nearest to `(-1) ^ negative * significand * 10 ^ exponent`; values too large
for any double are infinite and values too small are zero. -/
def nearestDouble (negative : Bool) (significand : Nat) (exponent : Int) : Binary64 :=
  let width : Int := (toString significand).length
  if significand == 0 then Binary64.round negative 0 1 0
  else if 310 < exponent + width - 1 then Binary64.infinity negative
  else if exponent + width < -330 then Binary64.round negative 0 1 0
  else Decimal.toBinary64 negative ⟨significand, exponent⟩

/-- Read a decimal floating point number. -/
def parseFloat? (text : String) : Option Binary64 :=
  let (negative, body) := match text.toList with
    | '+' :: r => (false, r)
    | '-' :: r => (true, r)
    | r => (false, r)
  match decimalOf? body with
  | some (m, e) => some (nearestDouble negative m e)
  | none =>
    let word := String.ofList (body.map Char.toLower)
    if word == "inf" || word == "infinity" then some (Binary64.infinity negative)
    else if word == "nan" then some (if negative then Binary64.nan.neg else Binary64.nan)
    else none

end Text

end Parley
