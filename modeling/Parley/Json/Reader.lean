import Parley.Json.Cursor
import Parley.Decimal.Reading

/-!
# Reading JSON text

`Json.parse` reads one value surrounded by blanks. Numbers keep the kind they are written in:
an integer literal is unsigned below `2 ^ 64` and negative from `-2 ^ 63` on; every other
literal, and every one with a fraction or an exponent, is a double computed by
`Decimal.scaled` from the leading digits that fit in 64 bits. `-0` is the double `-0.0`.
Strings decode the escapes of the JSON grammar, and a `\u` escape of a surrogate must pair a
leading half with a trailing one. Objects keep their fields in the order written, repeated
keys included.

## Implementation notes

Every reader takes a `fuel` argument, one unit per call; the entry point gives more than
twice the length of the text, and each call either reads a character or returns.
-/

namespace Parley

namespace Json

namespace Reader

/-- The largest value of an unsigned 64-bit integer. -/
def maxUnsigned : Nat := Nat.pow 2 64 - 1

/-- The largest value of a signed 32-bit integer. -/
def maxExponent : Nat := Nat.pow 2 31 - 1

/-- Whether `a * 10 + d` would pass `limit`. -/
def overflows (a d limit : Nat) : Bool :=
  a ≥ limit / 10 && (a > limit / 10 || d > limit % 10)

/-- The value of an ASCII digit. -/
def digitValue? (c : Char) : Option Nat :=
  if c.isDigit then some (c.toNat - '0'.toNat) else none

/-- The next character if it is a digit, not read. -/
def peekDigit? : Reader (Option Nat) := do
  return (← peek?).bind digitValue?

/-- Skip a run of digits. -/
def skipDigits : Nat → Reader Unit
  | 0 => pure ()
  | fuel + 1 => do
    match (← peekDigit?) with
    | some _ => eat; skipDigits fuel
    | none => pure ()

/-- A sum held within the signed 32-bit range. -/
def saturate (n : Int) : Int := max (-(Nat.pow 2 31 : Int)) (min n (Nat.pow 2 31 - 1))

/-- The double for the parts read, or the fault of an overflow. -/
def fromParts (positive : Bool) (significand : Nat) (exponent : Int) : Reader Binary64 := do
  match Decimal.scaled (!positive) significand exponent with
  | some x => pure x
  | none => fail .numberOutOfRange

/-- An exponent past 32 bits: zero, or a fault when the exponent is positive. -/
def exponentOverflow (fuel : Nat) (positive zeroSignificand positiveExponent : Bool) :
    Reader Binary64 := do
  if !zeroSignificand && positiveExponent then fail .numberOutOfRange
  else
    skipDigits fuel
    pure (if positive then Binary64.zero else Binary64.zero.neg)

/-- The digits of an exponent after its first one. -/
def exponentDigits (fuel : Nat) (positive : Bool) (significand : Nat) (start : Int)
    (positiveExponent : Bool) : Nat → Nat → Reader Binary64
  | 0, e => finish e
  | steps + 1, e => do
    match (← peekDigit?) with
    | some d =>
      eat
      if overflows e d maxExponent then
        exponentOverflow fuel positive (significand = 0) positiveExponent
      else exponentDigits fuel positive significand start positiveExponent steps (e * 10 + d)
    | none => finish e
where
  finish (e : Nat) : Reader Binary64 :=
    fromParts positive significand
      (if positiveExponent then saturate (start + e) else saturate (start - e))

/-- An exponent part, its `e` not yet read. -/
def exponentPart (fuel : Nat) (positive : Bool) (significand : Nat) (start : Int) :
    Reader Binary64 := do
  eat
  let positiveExponent ← match (← peek?) with
    | some '+' => do eat; pure true
    | some '-' => do eat; pure false
    | _ => pure true
  match (← next?) with
  | none => fail .eofWhileParsingValue
  | some c =>
    match digitValue? c with
    | none => refuse c .invalidNumber
    | some d => exponentDigits fuel positive significand start positiveExponent fuel d

/-- Go on after the digits that fit: an exponent part, or the end of the number. -/
def afterOverflow (fuel : Nat) (positive : Bool) (significand : Nat) (exponent : Int) :
    Reader Binary64 := do
  match (← peek?) with
  | some 'e' | some 'E' => exponentPart fuel positive significand exponent
  | _ => fromParts positive significand exponent

/-- Fraction digits while they fit in 64 bits: the significand, the count of digits read as a
negative exponent, and whether a digit did not fit. -/
def fractionDigits : Nat → Nat → Int → Reader (Nat × Int × Bool)
  | 0, s, after => pure (s, after, false)
  | fuel + 1, s, after => do
    match (← peekDigit?) with
    | some d =>
      if overflows s d maxUnsigned then pure (s, after, true)
      else
        eat
        fractionDigits fuel (s * 10 + d) (after - 1)
    | none => pure (s, after, false)

/-- A fraction part, its point not yet read. Digits that do not fit are skipped. -/
def fractionPart (fuel : Nat) (positive : Bool) (significand : Nat) (before : Int) :
    Reader Binary64 := do
  eat
  let (s, after, overflowed) ← fractionDigits fuel significand 0
  if overflowed then
    skipDigits fuel
    afterOverflow fuel positive s (before + after)
  else if after = 0 then
    match (← peek?) with
    | some _ => failAhead .invalidNumber
    | none => failAhead .eofWhileParsingValue
  else afterOverflow fuel positive s (before + after)

/-- The digits of an integer past 64 bits, each one a factor of ten. -/
def longDigits (fuel : Nat) (positive : Bool) (significand : Nat) : Nat → Int → Reader Binary64
  | 0, exponent => fromParts positive significand exponent
  | steps + 1, exponent => do
    match (← peek?) with
    | some '.' => fractionPart fuel positive significand exponent
    | some 'e' | some 'E' => exponentPart fuel positive significand exponent
    | some c =>
      if c.isDigit then
        eat
        longDigits fuel positive significand steps (exponent + 1)
      else fromParts positive significand exponent
    | none => fromParts positive significand exponent

/-- The number after its integer digits. -/
def afterInteger (fuel : Nat) (positive : Bool) (significand : Nat) : Reader Number := do
  match (← peek?) with
  | some '.' => return .double (← fractionPart fuel positive significand 0)
  | some 'e' | some 'E' => return .double (← exponentPart fuel positive significand 0)
  | _ =>
    if positive then return .unsigned significand
    else if significand = 0 then return .double Binary64.zero.neg
    else if significand ≤ Nat.pow 2 63 then return .negative (-(significand : Int))
    else return .double (Binary64.ofNat significand).neg

/-- Integer digits after the first, while they fit in 64 bits. -/
def integerDigits (fuel : Nat) (positive : Bool) : Nat → Nat → Reader Number
  | 0, s => afterInteger fuel positive s
  | steps + 1, s => do
    match (← peekDigit?) with
    | some d =>
      if overflows s d maxUnsigned then return .double (← longDigits fuel positive s fuel 0)
      else
        eat
        integerDigits fuel positive steps (s * 10 + d)
    | none => afterInteger fuel positive s

/-- A number after its sign. -/
def number (fuel : Nat) (positive : Bool) : Reader Number := do
  match (← next?) with
  | none => fail .eofWhileParsingValue
  | some '0' =>
    match (← peekDigit?) with
    | some _ => failAhead .invalidNumber
    | none => afterInteger fuel positive 0
  | some c =>
    match digitValue? c with
    | some d => integerDigits fuel positive fuel d
    | none => refuse c .invalidNumber

/-- Four hexadecimal digits of a `\u` escape. Fewer than four bytes left is the end of the
text; four bytes that are not hexadecimal digits are an invalid escape, reported after them. -/
def hexEscape : Reader Nat := do
  let c ← get
  let window := c.rest.take 4
  if (window.map Char.utf8Size).foldl (· + ·) 0 < 4 then
    set c.toEnd
    fail .eofWhileParsingString
  else
    let value := window.foldl (fun acc ch => acc.bind fun a =>
      if ch.isDigit then some (a * 16 + (ch.toNat - '0'.toNat))
      else if 'a' ≤ ch ∧ ch ≤ 'f' then some (a * 16 + (ch.toNat - 'a'.toNat + 10))
      else if 'A' ≤ ch ∧ ch ≤ 'F' then some (a * 16 + (ch.toNat - 'A'.toNat + 10))
      else none) (some 0)
    match value with
    | some n =>
      set (c.advance.advance.advance.advance)
      pure n
    | none =>
      let (line, column) := c.positionAfterBytes 4
      throw ⟨.invalidEscape, line, column⟩

/-- The character of a `\u` escape, its `u` read; a surrogate must be followed by the escape
of its trailing half. -/
def unicodeEscape : Reader Char := do
  let n ← hexEscape
  if 0xDC00 ≤ n ∧ n ≤ 0xDFFF then fail .loneLeadingSurrogateInHexEscape
  else if n < 0xD800 ∨ 0xDBFF < n then pure (Char.ofNat n)
  else
    match (← peek?) with
    | none => fail .eofWhileParsingString
    | some '\\' => eat
    | some _ => failAhead .unexpectedEndOfHexEscape
    match (← peek?) with
    | none => fail .eofWhileParsingString
    | some 'u' => eat
    | some _ => failAhead .unexpectedEndOfHexEscape
    let low ← hexEscape
    if low < 0xDC00 ∨ 0xDFFF < low then fail .loneLeadingSurrogateInHexEscape
    else pure (Char.ofNat ((n - 0xD800) * 1024 + (low - 0xDC00) + 0x10000))

/-- The character of an escape, its backslash read. -/
def escape : Reader Char := do
  match (← next?) with
  | none => fail .eofWhileParsingString
  | some '"' => pure '"'
  | some '\\' => pure '\\'
  | some '/' => pure '/'
  | some 'b' => pure (Char.ofNat 8)
  | some 'f' => pure (Char.ofNat 12)
  | some 'n' => pure '\n'
  | some 'r' => pure '\r'
  | some 't' => pure '\t'
  | some 'u' => unicodeEscape
  | some c => refuse c .invalidEscape

/-- The rest of a string, its opening quote read. -/
def stringBody : Nat → List Char → Reader String
  | 0, _ => fail .eofWhileParsingString
  | fuel + 1, acc => do
    match (← next?) with
    | none => fail .eofWhileParsingString
    | some '"' => pure (String.ofList acc.reverse)
    | some '\\' => stringBody fuel ((← escape) :: acc)
    | some c =>
      if c.toNat < 32 then fail .controlCharacterWhileParsingString
      else stringBody fuel (c :: acc)

/-- The rest of a word, its first letter read. -/
def ident (word : List Char) : Reader Unit :=
  word.forM fun expected => do
    match (← next?) with
    | none => fail .eofWhileParsingValue
    | some c => if c = expected then pure () else refuse c .expectedSomeIdent

/-- The close of an array whose items have been read. -/
def endArray : Reader Unit := do
  match (← peekPastBlank) with
  | some ']' => eat
  | some ',' =>
    eat
    match (← peekPastBlank) with
    | some ']' => failAhead .trailingComma
    | _ => failAhead .trailingCharacters
  | some _ => failAhead .trailingCharacters
  | none => failAhead .eofWhileParsingList

/-- The close of an object whose fields have been read. -/
def endObject : Reader Unit := do
  match (← peekPastBlank) with
  | some '}' => eat
  | some ',' => failAhead .trailingComma
  | some _ => failAhead .trailingCharacters
  | none => failAhead .eofWhileParsingObject

/-- Before an array item: `none` at the closing bracket, else the first character of the
item. -/
def itemStart (first : Bool) : Reader (Option Char) := do
  let p ← peekPastBlank
  if p = some ']' then return none
  let p ← match p with
    | some ',' => if first then pure (some ',') else do eat; peekPastBlank
    | some b => if first then pure (some b) else failAhead .expectedListCommaOrEnd
    | none => failAhead .eofWhileParsingList
  match p with
  | some ']' => failAhead .trailingComma
  | some b => pure (some b)
  | none => failAhead .eofWhileParsingValue

/-- Before an object field: `none` at the closing brace, else the key, read with the colon
after it. -/
def fieldKey (fuel : Nat) (first : Bool) : Reader (Option String) := do
  let p ← peekPastBlank
  if p = some '}' then return none
  let p ← match p with
    | some ',' => if first then pure (some ',') else do eat; peekPastBlank
    | some b => if first then pure (some b) else failAhead .expectedObjectCommaOrEnd
    | none => failAhead .eofWhileParsingObject
  let key ← match p with
    | some '"' => do eat; stringBody fuel []
    | some '}' => failAhead .trailingComma
    | some _ => failAhead .keyMustBeAString
    | none => failAhead .eofWhileParsingValue
  match (← peekPastBlank) with
  | some ':' => eat
  | some _ => failAhead .expectedColon
  | none => failAhead .eofWhileParsingObject
  pure (some key)

mutual

/-- One value, after blanks. -/
def value : Nat → Reader Json
  | 0 => fail .eofWhileParsingValue
  | fuel + 1 => do
    match (← peekPastBlank) with
    | none => failAhead .eofWhileParsingValue
    | some 'n' => eat; ident ['u', 'l', 'l']; pure .null
    | some 't' => eat; ident ['r', 'u', 'e']; pure (.bool true)
    | some 'f' => eat; ident ['a', 'l', 's', 'e']; pure (.bool false)
    | some '-' => eat; return .number (← number fuel false)
    | some '"' => eat; return .string (← stringBody fuel [])
    | some '[' =>
      enter
      eat
      let items ← arrayItems fuel true []
      leave
      endArray
      pure (.array items)
    | some '{' =>
      enter
      eat
      let fields ← objectFields fuel true []
      leave
      endObject
      pure (.object fields)
    | some c =>
      if c.isDigit then return .number (← number fuel true)
      else failAhead .expectedSomeValue

/-- The items of an array, its bracket read, up to the closing bracket. -/
def arrayItems : Nat → Bool → List Json → Reader (List Json)
  | 0, _, acc => pure acc.reverse
  | fuel + 1, first, acc => do
    match (← itemStart first) with
    | none => pure acc.reverse
    | some _ => arrayItems fuel false ((← value fuel) :: acc)

/-- The fields of an object, its brace read, up to the closing brace. -/
def objectFields : Nat → Bool → List (String × Json) → Reader (List (String × Json))
  | 0, _, acc => pure acc.reverse
  | fuel + 1, first, acc => do
    match (← fieldKey fuel first) with
    | none => pure acc.reverse
    | some key => objectFields fuel false ((key, ← value fuel) :: acc)

end

/-- Fuel enough for a text: every call reads a character or returns. -/
def fuelFor (c : Cursor) : Nat := 2 * c.rest.length + 8

/-- Nothing but blanks may follow. -/
def finish : Reader Unit := do
  match (← peekPastBlank) with
  | some _ => failAhead .trailingCharacters
  | none => pure ()

end Reader

/-- Read a text holding one JSON value. -/
def parse (text : String) : Except ReadError Json :=
  let c := Cursor.start text
  (do let v ← Reader.value (Reader.fuelFor c); Reader.finish; pure v).run' c

end Json

end Parley
