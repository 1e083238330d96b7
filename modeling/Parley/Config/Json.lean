import Parley.Config.Interaction
import Parley.Json.Decode

/-!
# Interaction settings from JSON

The settings are read from a JSON object; every field is optional and takes its default when
absent, and fields of other names are ignored. The fields are read in increasing key order.
The settings may also be written as an array of their fields in declaration order.
-/

namespace Parley

namespace InteractionSettings

open Json Schema

/-- The names of the policies for unknown actions. -/
def policyChoices : List (String × UnknownActionPolicy) :=
  [("ignore", .ignore), ("reject", .reject)]

/-- Read the settings from an array of their fields in declaration order; every field has a
default, so any prefix will do. -/
def ofJsonArray (items : List Json) : Except Mismatch InteractionSettings := do
  let d : InteractionSettings := {}
  let e := "struct InteractionConfig with 6 elements"
  let dialogMargin ← elementAt items 0 e (toUnsigned 32 "u32") (some d.dialogMargin)
  let dialogHeight ← elementAt items 1 e (toUnsigned 32 "u32") (some d.dialogHeight)
  let dialogX ← elementAt items 2 e (toSigned 32 "i32") (some d.dialogX)
  let dialogY ← elementAt items 3 e (toSigned 32 "i32") (some d.dialogY)
  let unknownActions ← elementAt items 4 e (toChoice policyChoices) (some d.unknownActions)
  let timeoutTicks ← elementAt items 5 e (toOption (toUnsigned 64 "u64")) (some d.timeoutTicks)
  noneBeyond items 6
  pure ⟨dialogMargin, dialogHeight, dialogX, dialogY, unknownActions, timeoutTicks⟩

/-- Read the settings from a JSON value. -/
def ofJson (j : Json) : Except Mismatch InteractionSettings := do
  if let .array items := j then return ← ofJsonArray items
  let fields ← toFields "InteractionConfig" j
  fields.foldlM (fun s (k, v) =>
    match k with
    | "dialog_margin" => return { s with dialogMargin := ← toUnsigned 32 "u32" v }
    | "dialog_height" => return { s with dialogHeight := ← toUnsigned 32 "u32" v }
    | "dialog_x" => return { s with dialogX := ← toSigned 32 "i32" v }
    | "dialog_y" => return { s with dialogY := ← toSigned 32 "i32" v }
    | "unknown_actions" => return { s with unknownActions := ← toChoice policyChoices v }
    | "timeout_ticks" => return { s with timeoutTicks := ← toOption (toUnsigned 64 "u64") v }
    | _ => pure s) {}

end InteractionSettings

end Parley
