import Parley.Action.Kind

/-!
# Interaction settings

How conversations are laid out and bounded: the margin taken from the screen length to get the
dialog width, the dialog height, where dialogs are placed, how unknown actions are met, and
after how many ticks an unfinished interaction times out, if ever. The margin and height are
32-bit counts, the place 32-bit signed, the timeout a 64-bit count.
-/

namespace Parley

/-- The settings of interactions. -/
structure InteractionSettings where
  dialogMargin : Nat := 40
  dialogHeight : Nat := 200
  dialogX : Int := 20
  dialogY : Int := 20
  unknownActions : UnknownActionPolicy := .ignore
  timeoutTicks : Option Nat := none
  deriving DecidableEq, Repr, Inhabited

end Parley
