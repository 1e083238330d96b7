import Parley.Cast.Basic
import Parley.Json.Decode

/-!
# Cast members from JSON

A cast member is read from a JSON object: `id` and `name` are required strings, the other
fields take their defaults when absent, and fields of other names are ignored. The fields are
read in increasing key order, so of two bad fields the first in that order is reported; a
missing `id` is reported before a missing `name`. A cast member may also be written as an array
of its fields in the order `id`, `name`, `dialogue`, `color`, `portrait`, `position`, `heading`,
`manager`.
-/

namespace Parley

namespace CastMember

open Json Schema

/-- The name of each direction, for reading headings. -/
def headingChoices : List (String × Direction) :=
  Direction.all.map fun d => (d.name, d)

/-- How an array read as a cast member is described in errors. -/
def arrayExpecting : String := "struct CharacterBuilder with 8 elements"

/-- Read a cast member from an array of its fields in declaration order. -/
def ofJsonArray (items : List Json) : Except Mismatch CastMember := do
  let d : CastMember := { id := "", name := "" }
  let id ← elementAt items 0 arrayExpecting toText none
  let name ← elementAt items 1 arrayExpecting toText none
  let dialogue ← elementAt items 2 arrayExpecting toText (some d.dialogue)
  let color ← elementAt items 3 arrayExpecting (toUnsigned 32 "u32") (some d.color.toNat)
  let portrait ← elementAt items 4 arrayExpecting (toOption toText) (some d.portrait)
  let position ← elementAt items 5 arrayExpecting toSinglePair (some d.position)
  let heading ← elementAt items 6 arrayExpecting (toChoice headingChoices) (some d.heading)
  let manager ← elementAt items 7 arrayExpecting toText (some d.manager)
  noneBeyond items 8
  pure ⟨id, name, dialogue, UInt32.ofNat color, portrait, position, heading, manager⟩

/-- Read a cast member from a JSON value. -/
def ofJson (j : Json) : Except Mismatch CastMember := do
  if let .array items := j then return ← ofJsonArray items
  let fields ← toFields "CharacterBuilder" j
  let start : CastMember := { id := "", name := "" }
  let (c, hasId, hasName) ← fields.foldlM (fun (c, hasId, hasName) (k, v) =>
    match k with
    | "id" => return ({ c with id := ← toText v }, true, hasName)
    | "name" => return ({ c with name := ← toText v }, hasId, true)
    | "dialogue" => return ({ c with dialogue := ← toText v }, hasId, hasName)
    | "color" => return ({ c with color := UInt32.ofNat (← toUnsigned 32 "u32" v) }, hasId, hasName)
    | "portrait" => return ({ c with portrait := ← toOption toText v }, hasId, hasName)
    | "position" => return ({ c with position := ← toSinglePair v }, hasId, hasName)
    | "heading" => return ({ c with heading := ← toChoice headingChoices v }, hasId, hasName)
    | "manager" => return ({ c with manager := ← toText v }, hasId, hasName)
    | _ => pure (c, hasId, hasName)) (start, false, false)
  if !hasId then throw (.missingField "id")
  if !hasName then throw (.missingField "name")
  pure c

end CastMember

end Parley
