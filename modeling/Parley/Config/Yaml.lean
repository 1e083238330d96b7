import Parley.Config.Basic
import Parley.Config.Environment
import Parley.Config.Json
import Parley.Cast.Json
import Parley.Yaml.Decode

/-!
# Configuration from YAML

The configuration file is a YAML mapping with the optional sections `interaction`,
`presentation`, `runtime` and `cast`; a missing section, or a missing field of a section, takes
its default, and keys of other names are ignored. A key given twice in one mapping is an error.
A cast member needs `id` and `name`; a missing `id` is reported before a missing `name`.

A number field reads the text of a plain scalar whatever its tag says, and that of a literal
block scalar tagged as its own kind of number (`!!int` for counts and signed numbers, `!!float`
for singles): a count or a signed number as a 64-bit integer, narrowed afterwards, and a single
as a double, rounded. Any other scalar is refused as what it means when no type is asked of it.

The screen length and the two runtime counts may also be given as text, which may refer to
environment variables (see `Config.expand`) and must then read as a decimal count.
-/

namespace Parley

open Yaml Decode Schema

namespace Config

/-- A count of `bits` bits, from what a scalar means; `name` names the type in errors. -/
def unsignedOf (bits : Nat) (name : String) : Resolved → Except Mismatch Nat
  | .unsigned n => if n < Nat.pow 2 bits then .ok n else .error (.invalidValue (.unsigned n) name)
  | .negative n =>
    if 0 ≤ n && n < Nat.pow 2 bits then .ok n.toNat else .error (.invalidValue (.signed n) name)
  | r => .error (.invalidType r.found name)

/-- A count of `bits` bits: a 64-bit count, narrowed. -/
def count (bits : Nat) : Decode Nat :=
  let name := s!"u{bits}"
  number tagInt name (unsignedOf? · 64) fun n =>
    if n < Nat.pow 2 bits then .ok n else .error (.invalidValue (.unsigned n) name)

def count32 : Decode Nat := count 32
def count64 : Decode Nat := count 64

/-- A signed integer of 32 bits: a 64-bit one, narrowed. -/
def signed32 : Decode Int :=
  number tagInt "i32" (signedOf? · 64) fun n =>
    if -(Nat.pow 2 31 : Int) ≤ n && n < Nat.pow 2 31 then .ok n
    else .error (.invalidValue (.signed n) "i32")

/-- A single precision number: a double, rounded. -/
def single : Decode Binary32 := number tagFloat "f32" floatOf? fun x => .ok x.toBinary32

/-- What a count that expands its text takes. -/
def expandable : String := "a boolean, integer, float, character, string, byte array, array or map"

/-- A count that may also be given as text with environment references. -/
def expandedCount (env : Environment) (bits : Nat) : Decode Nat :=
  let name := s!"u{bits}"
  textOr expandable name (unsignedOf bits name) (expandCount env bits)

/-- A cast member. -/
def castMember : Decode CastMember :=
  record "CharacterBuilder" ({ id := "", name := "" } : CastMember)
    (fun key => match key with
      | "id" => some fun c => do pure { c with id := ← string }
      | "name" => some fun c => do pure { c with name := ← string }
      | "dialogue" => some fun c => do pure { c with dialogue := ← string }
      | "color" => some fun c => do pure { c with color := UInt32.ofNat (← count32) }
      | "portrait" => some fun c => do pure { c with portrait := ← option string }
      | "position" => some fun c => do pure { c with position := ← pair "a tuple of size 2" single single }
      | "heading" => some fun c => do pure { c with heading := ← choice CastMember.headingChoices }
      | "manager" => some fun c => do pure { c with manager := ← string }
      | _ => none)
    (fun c seen =>
      if !seen.contains "id" then .error (.missingField "id")
      else if !seen.contains "name" then .error (.missingField "name")
      else .ok c)

/-- The interaction section. -/
def interaction : Decode InteractionSettings :=
  record "InteractionConfig" ({} : InteractionSettings)
    (fun key => match key with
      | "dialog_margin" => some fun s => do pure { s with dialogMargin := ← count32 }
      | "dialog_height" => some fun s => do pure { s with dialogHeight := ← count32 }
      | "dialog_x" => some fun s => do pure { s with dialogX := ← signed32 }
      | "dialog_y" => some fun s => do pure { s with dialogY := ← signed32 }
      | "unknown_actions" => some fun s => do
        pure { s with unknownActions := ← choice InteractionSettings.policyChoices }
      | "timeout_ticks" => some fun s => do pure { s with timeoutTicks := ← option count64 }
      | _ => none)
    (fun s _ => .ok s)

/-- The presentation section. -/
def presentation (env : Environment) : Decode PresentationSettings :=
  record "PresentationConfig" ({} : PresentationSettings)
    (fun key => match key with
      | "screen_length" => some fun s => do pure { s with screenLength := ← expandedCount env 32 }
      | "auto_finish_ticks" => some fun s => do pure { s with autoFinishTicks := ← option count32 }
      | _ => none)
    (fun s _ => .ok s)

/-- The runtime section. -/
def runtime (env : Environment) : Decode RuntimeSettings :=
  record "RuntimeConfig" ({} : RuntimeSettings)
    (fun key => match key with
      | "tick_millis" => some fun s => do pure { s with tickMillis := ← expandedCount env 64 }
      | "max_ticks" => some fun s => do pure { s with maxTicks := ← expandedCount env 64 }
      | _ => none)
    (fun s _ => .ok s)

/-- A whole configuration. -/
def configuration (env : Environment) : Decode Configuration :=
  record "Configuration" ({} : Configuration)
    (fun key => match key with
      | "interaction" => some fun c => do pure { c with interaction := ← interaction }
      | "presentation" => some fun c => do pure { c with presentation := ← presentation env }
      | "runtime" => some fun c => do pure { c with runtime := ← runtime env }
      | "cast" => some fun c => do pure { c with cast := ← sequence castMember }
      | _ => none)
    (fun c _ => .ok c)

end Config

/-- Read a configuration from YAML text, with `env` for the environment references. -/
def Configuration.ofYaml (env : Config.Environment) (text : String) : Except String Configuration :=
  (decodeText text (Config.configuration env)).mapError Failure.text

/-- Read a cast member from YAML text. -/
def CastMember.ofYaml (text : String) : Except String CastMember :=
  (decodeText text Config.castMember).mapError Failure.text

end Parley
