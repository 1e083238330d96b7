import Parley.Record.Basic

/-!
# Minds

A mind is who a character is in conversation: an identifier, a display name, the dialogue
script it speaks (empty when it has nothing to say), the color of its speech and an optional
portrait. Saving writes all of them, the portrait only when there is one; restoring checks a
portrait first, then the identifier, the name, the dialogue and the color, which must fit 32
bits.
-/

namespace Parley

/-- A character's conversational identity. -/
structure Mind where
  id : String
  name : String
  dialogue : String
  color : UInt32
  portrait : Option String
  deriving DecidableEq, Repr, Inhabited

namespace Mind

/-- The color of speech when none is given: white. -/
def defaultColor : UInt32 := 0xFFFFFF

/-- A mind with no dialogue, the default color and no portrait. -/
def new (id name : String) : Mind := ⟨id, name, "", defaultColor, none⟩

def hasDialogue (m : Mind) : Bool := !m.dialogue.isEmpty

/-- Write the mind into a record. -/
def save (m : Mind) (r : Record) : Record :=
  let r := (((r.putString "id" m.id).putString "name" m.name).putString "dialogue"
    m.dialogue).putNat "color" m.color.toNat
  match m.portrait with
  | some p => r.putString "portrait" p
  | none => r

/-- Read a mind back. -/
def restore (r : Record) : Except Record.Error Mind := do
  let portrait ← if r.contains "portrait" then some <$> r.getString "portrait" else pure none
  let id ← r.getString "id"
  let name ← r.getString "name"
  let dialogue ← r.getString "dialogue"
  let color ← r.getUInt32 "color"
  pure ⟨id, name, dialogue, color, portrait⟩

end Mind

end Parley
