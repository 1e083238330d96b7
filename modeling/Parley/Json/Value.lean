import Parley.Decimal.Layout

/-!
# JSON values and their compact text

A JSON number keeps the kind it was read as: an unsigned integer below `2 ^ 64`, a negative
integer of at least `-2 ^ 63`, or a double. The compact text has no blanks; a double is written
in the `Decimal.interchange` layout, whole ones with `.0`, and a NaN or an infinity as `null`.
A string escapes the quote, the backslash and every control character below `U+0020`, the
usual ones by letter and the rest as `\u00XX`; all other characters are written as they are.
-/

namespace Parley

/-- A number as it was read or is to be written. -/
inductive Number where
  | unsigned (n : Nat)
  | negative (n : Int)
  | double (x : Binary64)
  deriving DecidableEq, Repr, Inhabited

/-- A JSON value. An object keeps its fields in the order given. -/
inductive Json where
  | null
  | bool (b : Bool)
  | number (n : Number)
  | string (s : String)
  | array (items : List Json)
  | object (fields : List (String × Json))
  deriving Repr, Inhabited

namespace Number

/-- An integer, unsigned when it is not negative. -/
def ofInt (n : Int) : Number := if 0 ≤ n then .unsigned n.toNat else .negative n

/-- The double a number stands for: integers are rounded to the nearest double. -/
def toBinary64 : Number → Binary64
  | .unsigned n => Binary64.ofNat n
  | .negative n => Binary64.ofInt n
  | .double x => x

/-- The text of a number; a NaN or an infinity is `null`. -/
def text : Number → String
  | .unsigned n => toString n
  | .negative n => toString n
  | .double x => (x.text? Decimal.interchange).getD "null"

end Number

/-- Four lowercase hexadecimal digits. -/
def hex4 (n : Nat) : String :=
  let digit (d : Nat) : Char := if d < 10 then Char.ofNat (48 + d) else Char.ofNat (87 + d)
  String.ofList [digit (n / 4096 % 16), digit (n / 256 % 16), digit (n / 16 % 16), digit (n % 16)]

/-- The escaped form of one character inside a string. -/
def escapeChar (c : Char) : String :=
  if c = '"' then "\\\""
  else if c = '\\' then "\\\\"
  else if c = '\n' then "\\n"
  else if c = '\r' then "\\r"
  else if c = '\t' then "\\t"
  else if c.toNat = 8 then "\\b"
  else if c.toNat = 12 then "\\f"
  else if c.toNat < 32 then "\\u" ++ hex4 c.toNat
  else c.toString

/-- A string in quotes, escaped. -/
def quote (s : String) : String :=
  "\"" ++ String.join (s.toList.map escapeChar) ++ "\""

namespace Json

mutual

/-- The compact text of a value. -/
def write : Json → String
  | .null => "null"
  | .bool b => if b then "true" else "false"
  | .number n => n.text
  | .string s => quote s
  | .array items => "[" ++ writeItems items ++ "]"
  | .object fields => "\x7b" ++ writeFields fields ++ "\x7d"

/-- Array items separated by commas. -/
def writeItems : List Json → String
  | [] => ""
  | [v] => write v
  | v :: rest => write v ++ "," ++ writeItems rest

/-- Object fields separated by commas. -/
def writeFields : List (String × Json) → String
  | [] => ""
  | [(k, v)] => quote k ++ ":" ++ write v
  | (k, v) :: rest => quote k ++ ":" ++ write v ++ "," ++ writeFields rest

end

/-- The value of a field of an object, the last one if the key repeats. -/
def field? (j : Json) (key : String) : Option Json :=
  match j with
  | .object fields => (fields.reverse.find? (·.1 == key)).map (·.2)
  | _ => none

/-- A natural number. -/
def nat (n : Nat) : Json := .number (.unsigned n)

/-- An integer. -/
def int (n : Int) : Json := .number (Number.ofInt n)

/-- A double. -/
def double (x : Binary64) : Json := .number (.double x)

/-- An optional value, `null` when absent. -/
def opt {α : Type} (f : α → Json) : Option α → Json
  | some a => f a
  | none => .null

end Json

end Parley
