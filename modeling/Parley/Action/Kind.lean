import Parley.Text.Blank

/-!
# Actions

An action is what one character does to another, numbered by a 16-bit code. Code `0` is the
normal action, which starts a conversation; other codes start nothing here. A character
meets an action it has no interaction for according to its policy: it ignores it or it
rejects it.

Both are read from text after trimming the blanks and ignoring case: `normal` or a decimal
number of at most 16 bits, with an optional `+` and leading zeros, for an action; `ignore` or
`reject` for a policy.

## Implementation notes

Case is ignored by making ASCII capitals small. No character outside ASCII becomes one of
the letters of `normal`, `ignore` or `reject`, a digit or `+` when made small, so the words
accepted are the same as under full Unicode case folding.
-/

namespace Parley

/-- An action, by its code. -/
structure ActionKind where
  code : UInt16
  deriving DecidableEq, Repr, Inhabited

namespace ActionKind

/-- The normal action. -/
def normal : ActionKind := ⟨0⟩

/-- How an action is named in messages. -/
def display (k : ActionKind) : String :=
  if k.code = 0 then "normal" else s!"action #{k.code}"

/-- A decimal number of at most 16 bits: an optional `+`, then one or more ASCII digits. -/
def parseCode (s : String) : Option Nat :=
  let digits := match s.toList with
    | '+' :: rest => rest
    | cs => cs
  if !digits.isEmpty && digits.all Char.isDigit then
    let n := digits.foldl (fun acc c => acc * 10 + (c.toNat - '0'.toNat)) 0
    if n < Nat.pow 2 16 then some n else none
  else none

/-- Read an action from text; the error quotes the text as given. -/
def parse (s : String) : Except String ActionKind :=
  let t := Text.asciiLower (Text.trimBlank s)
  if t = "normal" then .ok normal
  else match parseCode t with
    | some n => .ok ⟨UInt16.ofNat n⟩
    | none => .error s!"Unknown action kind: {s}"

end ActionKind

/-- What an action starts. -/
inductive Interaction where
  | conversation
  deriving DecidableEq, Repr

/-- The interaction an action starts, if any: only the normal action starts a conversation. -/
def Interaction.ofAction? (k : ActionKind) : Option Interaction :=
  if k.code = 0 then some .conversation else none

/-- How a character meets an action it has no interaction for. -/
inductive UnknownActionPolicy where
  | ignore
  | reject
  deriving DecidableEq, Repr, Inhabited

namespace UnknownActionPolicy

/-- The name of a policy. -/
def name : UnknownActionPolicy → String
  | .ignore => "Ignore"
  | .reject => "Reject"

/-- Read a policy from text; the error quotes the text as given. -/
def parse (s : String) : Except String UnknownActionPolicy :=
  match Text.asciiLower (Text.trimBlank s) with
  | "ignore" => .ok .ignore
  | "reject" => .ok .reject
  | _ => .error s!"Unknown action policy: {s}"

end UnknownActionPolicy

end Parley
