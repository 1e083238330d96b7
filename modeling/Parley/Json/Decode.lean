import Parley.Json.Value
import Parley.Schema.Basic

/-!
# Typed values from JSON values

These readers turn a JSON value into a value of a fixed type, failing with a
`Schema.Mismatch`. An integer of a fixed width takes any integer in its range; a negative one
or one too large is an invalid value, anything else an invalid type. A single precision number
takes any number, rounded straight to the nearest single. An object read as a record of fields
is taken in increasing key order, a repeated key keeping its last value. A structure may also
be written as an array of its fields in declaration order; absent trailing fields take their
defaults, and a field without a default must be there.
-/

namespace Parley

namespace Json

open Schema

/-- What a value is called when it is not what was expected. -/
def found : Json → Found
  | .null => .unit
  | .bool b => .bool b
  | .number (.unsigned n) => .unsigned n
  | .number (.negative n) => .signed n
  | .number (.double x) => .float x
  | .string s => .string s
  | .array _ => .seq
  | .object _ => .map

/-- An unsigned integer below `2 ^ bits`; `name` names the type in errors. -/
def toUnsigned (bits : Nat) (name : String) : Json → Except Mismatch Nat
  | .number (.unsigned n) => if n < Nat.pow 2 bits then .ok n else .error (.invalidValue (.unsigned n) name)
  | .number (.negative n) => .error (.invalidValue (.signed n) name)
  | j => .error (.invalidType (found j) name)

/-- A signed integer of `bits` bits; `name` names the type in errors. -/
def toSigned (bits : Nat) (name : String) : Json → Except Mismatch Int
  | .number (.unsigned n) =>
    if n < Nat.pow 2 (bits - 1) then .ok n else .error (.invalidValue (.unsigned n) name)
  | .number (.negative n) =>
    if -(Nat.pow 2 (bits - 1) : Int) ≤ n then .ok n else .error (.invalidValue (.signed n) name)
  | j => .error (.invalidType (found j) name)

/-- A string. -/
def toText : Json → Except Mismatch String
  | .string s => .ok s
  | j => .error (.invalidType (found j) "a string")

/-- A single precision number. -/
def toSingle : Json → Except Mismatch Binary32
  | .number (.unsigned n) => .ok (Binary32.round false n 1 0)
  | .number (.negative n) => .ok (Binary32.round true n.natAbs 1 0)
  | .number (.double x) => .ok x.toBinary32
  | j => .error (.invalidType (found j) "f32")

/-- An optional value: `null` is absent. -/
def toOption {α : Type} (f : Json → Except Mismatch α) : Json → Except Mismatch (Option α)
  | .null => .ok none
  | j => some <$> f j

/-- One of the named choices of an enumeration without data, written as its name, or as an
object whose one key is the name and whose value is `null`. -/
def toChoice {α : Type} (choices : List (String × α)) : Json → Except Mismatch α
  | .string s => named s
  | .object [(s, v)] => do
    let a ← named s
    match v with
    | .null => pure a
    | j => throw (.invalidType (found j) "unit")
  | .object _ => .error (.invalidValue .map "map with a single key")
  | j => .error (.invalidType (found j) "string or map")
where
  named (s : String) : Except Mismatch α :=
    match choices.lookup s with
    | some a => .ok a
    | none => .error (.unknownVariant s (choices.map (·.1)))

/-- A pair of singles, written as an array of two numbers. -/
def toSinglePair : Json → Except Mismatch (Binary32 × Binary32)
  | .array [] => .error (.invalidLength 0 "a tuple of size 2")
  | .array [a] => do
    let _ ← toSingle a
    .error (.invalidLength 1 "a tuple of size 2")
  | .array (a :: b :: rest) => do
    let x ← toSingle a
    let y ← toSingle b
    if rest.isEmpty then pure (x, y)
    else .error (.invalidLength (rest.length + 2) "fewer elements in array")
  | j => .error (.invalidType (found j) "a tuple of size 2")

/-- Element `i` of an array read as a field of a structure: an absent element takes
`fallback`, and without one it is an error naming `expecting`. -/
def elementAt {α : Type} (items : List Json) (i : Nat) (expecting : String)
    (read : Json → Except Mismatch α) (fallback : Option α) : Except Mismatch α :=
  match items[i]?, fallback with
  | some v, _ => read v
  | none, some d => .ok d
  | none, none => .error (.invalidLength i expecting)

/-- An array read as a structure of `n` fields has no further elements. -/
def noneBeyond (items : List Json) (n : Nat) : Except Mismatch Unit :=
  if n < items.length then .error (.invalidLength items.length "fewer elements in array")
  else .ok ()

/-- The fields of an object in increasing key order, the last of a repeated key kept;
`name` names the expected structure in errors. -/
def toFields (name : String) : Json → Except Mismatch (List (String × Json))
  | .object fields =>
    .ok (fields.foldl (fun acc (k, v) => insertField k v acc) [])
  | j => .error (.invalidType (found j) ("struct " ++ name))
where
  insertField (key : String) (v : Json) : List (String × Json) → List (String × Json)
    | [] => [(key, v)]
    | (k, w) :: rest =>
      if key < k then (key, v) :: (k, w) :: rest
      else if key = k then (key, v) :: rest
      else (k, w) :: insertField key v rest

end Json

end Parley
