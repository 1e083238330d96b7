import Parley.Record.Basic
import Parley.Json.Reader
import Parley.Schema.Basic

/-!
# Records as JSON

A record is written as a JSON object with its keys in order; a cell is written as the JSON
value of its kind, and a double that is a NaN or an infinity as `null`.

Reading a record takes a JSON object. Each value becomes the first kind it fits, tried in the
order boolean, integer, double, string, record: an integer literal within the signed 64-bit
range is an integer, every other number a double, and an object a nested record whose values
are read the same way. A null or an array fits no kind. A repeated key keeps its last value.

## Implementation notes

A value that fits no kind stops the reading; the error is placed after the closing brace of
the outer object when it follows, else after the blanks that follow the value.
-/

namespace Parley

namespace Cell

mutual

/-- The JSON value of a cell. -/
def toJson : Cell → Json
  | .bool b => .bool b
  | .integer n => .int n.toInt
  | .float x => .double x
  | .string s => .string s
  | .record entries => .object (entriesToJson entries)

/-- The JSON fields of record entries. -/
def entriesToJson : List (String × Cell) → List (String × Json)
  | [] => []
  | (k, c) :: rest => (k, toJson c) :: entriesToJson rest

end

/-- The largest signed 64-bit integer. -/
def maxInteger : Nat := Nat.pow 2 63 - 1

mutual

/-- The cell a JSON value becomes, if it fits one. -/
def ofJson? : Json → Option Cell
  | .bool b => some (.bool b)
  | .number (.unsigned n) =>
    if n ≤ maxInteger then some (.integer (Int64.ofNat n)) else some (.float (Binary64.ofNat n))
  | .number (.negative n) => some (.integer (Int64.ofInt n))
  | .number (.double x) => some (.float x)
  | .string s => some (.string s)
  | .object fields => (entriesOfJson? fields).map fun entries => .record (Record.ofList entries).entries
  | .null => none
  | .array _ => none

/-- The entries JSON fields become, if every value fits. -/
def entriesOfJson? : List (String × Json) → Option (List (String × Cell))
  | [] => some []
  | (k, v) :: rest => do
    let c ← ofJson? v
    let tail ← entriesOfJson? rest
    pure ((k, c) :: tail)

end

end Cell

namespace Record

/-- The JSON object of a record. -/
def toJson (r : Record) : Json := .object (Cell.entriesToJson r.entries)

/-- The compact JSON text of a record. -/
def toJsonText (r : Record) : String := r.toJson.write

/-- The record a JSON value becomes: an object each of whose values fits a kind of cell, its
fields stored one by one, so that a repeated key keeps its last value. -/
def ofJson? : Json → Option Record
  | .object fields => (Cell.entriesOfJson? fields).map ofList
  | _ => none

/-- The message of a value that fits no kind of cell. -/
def noKindFits : String := "data did not match any variant of untagged enum RecordValue"

open Json Reader in
/-- What a value that is not an object is called, read far enough to say. -/
def foundInstead (fuel : Nat) : Reader Schema.Found := do
  match (← peek?) with
  | some 'n' => eat; ident ['u', 'l', 'l']; pure .unit
  | some 't' => eat; ident ['r', 'u', 'e']; pure (.bool true)
  | some 'f' => eat; ident ['a', 'l', 's', 'e']; pure (.bool false)
  | some '-' => eat; return numberFound (← number fuel false)
  | some '"' => eat; return .string (← stringBody fuel [])
  | some '[' => pure .seq
  | some '{' => pure .map
  | some c =>
    if c.isDigit then return numberFound (← number fuel true)
    else failAhead .expectedSomeValue
  | none => failAhead .expectedSomeValue
where
  numberFound : Number → Schema.Found
    | .unsigned n => .unsigned n
    | .negative n => .signed n
    | .double x => .float x

open Json Reader in
/-- The entries of an object, its brace read: the record so far, or the message of the first
value that fits no kind, which ends the reading. -/
def readEntries : Nat → Bool → Record → Reader (Except String Record)
  | 0, _, r => pure (.ok r)
  | fuel + 1, first, r => do
    match (← fieldKey fuel first) with
    | none => pure (.ok r)
    | some key =>
      match Cell.ofJson? (← value fuel) with
      | some c => readEntries fuel false (r.put key c)
      | none => pure (.error noKindFits)

open Json Reader in
/-- Read a record from the text of a JSON object. -/
def ofJsonText (text : String) : Except ReadError Record :=
  let c := Cursor.start text
  let fuel := fuelFor c
  let body : Reader Record := do
    match (← peekPastBlank) with
    | none => failAhead .eofWhileParsingValue
    | some '{' =>
      enter
      eat
      let outcome ← readEntries fuel true empty
      leave
      match outcome with
      | .ok r =>
        endObject
        pure r
      | .error message =>
        if (← peekPastBlank) = some '}' then eat
        fail (.data message)
    | some _ =>
      let found ← foundInstead fuel
      fail (.data ((Schema.Mismatch.invalidType found "a map").message .json))
  (do let r ← body; finish; pure r).run' c

end Record

end Parley
