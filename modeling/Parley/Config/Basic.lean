import Parley.Config.Interaction
import Parley.Cast.Basic

/-!
# Configuration

A configuration gathers what a run needs: the interaction settings, how the presentation is
sized and how long its dialogs stay open, the pace and length of the run, and the cast to spawn
in order. Every part has a default, so an empty configuration is a whole one.
-/

namespace Parley

/-- How the presentation is sized, and how many ticks a dialog stays open, if not forever. -/
structure PresentationSettings where
  screenLength : Nat := 640
  autoFinishTicks : Option Nat := some 3
  deriving DecidableEq, Repr

/-- The milliseconds between ticks, and the number of ticks after which a run gives up. -/
structure RuntimeSettings where
  tickMillis : Nat := 100
  maxTicks : Nat := 100
  deriving DecidableEq, Repr

/-- Everything a run is configured with. -/
structure Configuration where
  interaction : InteractionSettings := {}
  presentation : PresentationSettings := {}
  runtime : RuntimeSettings := {}
  cast : List CastMember := []
  deriving DecidableEq, Repr

end Parley
