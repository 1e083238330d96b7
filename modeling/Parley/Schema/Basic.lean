import Parley.Decimal.Layout
import Parley.Text.Quoted

/-!
# Messages of data binding

Turning a parsed document into a typed value fails in a few ways: a value of the wrong kind, a
value out of range, a missing or repeated field, an unknown name of a choice, a sequence of
the wrong length. `Schema.Mismatch` names them, and `Mismatch.message` words them. A value
met in the wrong place is described by `Found`; how a null and a double are spelled depends on
the document format, which is the `Wording`.
-/

namespace Parley

namespace Schema

/-- A value met where something else was expected. -/
inductive Found where
  | bool (b : Bool)
  | unsigned (n : Nat)
  | signed (n : Int)
  | float (x : Binary64)
  | string (s : String)
  | unit
  | seq
  | map
  /-- A description given in full. -/
  | other (text : String)
  deriving DecidableEq, Repr

/-- How a document format spells a null and a double in messages. -/
structure Wording where
  unit : String
  floatLayout : Decimal.Layout

/-- The wording of JSON documents: `null`, and doubles as written in JSON. -/
def Wording.json : Wording := ⟨"null", Decimal.interchange⟩

/-- The wording of YAML documents: `unit value`, and doubles written positionally. -/
def Wording.yaml : Wording := ⟨"unit value", Decimal.message⟩

/-- The text of a double in a message; a NaN or an infinity by name. -/
def floatText (w : Wording) (x : Binary64) : String :=
  match x.text? w.floatLayout with
  | some t => t
  | none =>
    if x.isNaN then "NaN"
    else if Binary.Format.double.isNegative x.pattern then "-inf" else "inf"

/-- The description of a value met. -/
def Found.describe (w : Wording) : Found → String
  | .bool b => s!"boolean `{b}`"
  | .unsigned n => s!"integer `{n}`"
  | .signed n => s!"integer `{n}`"
  | .float x => s!"floating point `{floatText w x}`"
  | .string s => "string " ++ Text.quoteForMessage s
  | .unit => w.unit
  | .seq => "sequence"
  | .map => "map"
  | .other text => text

/-- Why a document does not describe a value of the type asked for. -/
inductive Mismatch where
  | invalidType (found : Found) (expected : String)
  | invalidValue (found : Found) (expected : String)
  | invalidLength (length : Nat) (expected : String)
  | unknownVariant (name : String) (expected : List String)
  | missingField (name : String)
  | duplicateField (name : String)
  /-- A message given in full. -/
  | custom (text : String)
  deriving DecidableEq, Repr

/-- The list of names a choice accepts. -/
def oneOf : List String → String
  | [] => "there are no variants"
  | [a] => s!"`{a}`"
  | [a, b] => s!"`{a}` or `{b}`"
  | names => "one of " ++ ", ".intercalate (names.map fun n => s!"`{n}`")

/-- The text of a mismatch. -/
def Mismatch.message (w : Wording) : Mismatch → String
  | .invalidType found expected => s!"invalid type: {found.describe w}, expected {expected}"
  | .invalidValue found expected => s!"invalid value: {found.describe w}, expected {expected}"
  | .invalidLength n expected => s!"invalid length {n}, expected {expected}"
  | .unknownVariant name expected => s!"unknown variant `{name}`, expected {oneOf expected}"
  | .missingField name => s!"missing field `{name}`"
  | .duplicateField name => s!"duplicate field `{name}`"
  | .custom text => text

end Schema

end Parley
