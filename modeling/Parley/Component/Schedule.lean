import Parley.Record.Basic

/-!
# Schedules

A schedule names the routine a character follows when left alone, its manager, and counts how
many interactions hold it paused. It is active exactly when that count is zero. Suspending adds
one to the count, except at the largest 16-bit count, where it is refused; resuming takes one
away, except at zero. Saving writes the manager and the count under `manager` and `paused`.
-/

namespace Parley

/-- A routine and the number of interactions pausing it. -/
structure Schedule where
  manager : String
  paused : UInt16
  deriving DecidableEq, Repr, Inhabited

namespace Schedule

/-- Whether a schedule runs or waits. -/
inductive State where
  | active
  | suspended
  deriving DecidableEq, Repr

/-- The name of a state. -/
def State.name : State → String
  | .active => "Active"
  | .suspended => "Suspended"

/-- A running schedule of the given manager. -/
def new (manager : String) : Schedule := ⟨manager, 0⟩

/-- The manager of characters that have none of their own. -/
def idleManager : String := "idle"

/-- Add one pause, unless the count is at its largest. -/
def suspend (s : Schedule) : Schedule :=
  if s.paused = 65535 then s else { s with paused := s.paused + 1 }

/-- Remove one pause, unless there is none. -/
def resume (s : Schedule) : Schedule :=
  if s.paused = 0 then s else { s with paused := s.paused - 1 }

/-- Resume when `active`, else suspend. -/
def setActive (s : Schedule) (active : Bool) : Schedule :=
  if active then s.resume else s.suspend

/-- No interaction pauses the schedule. -/
def isActive (s : Schedule) : Bool := s.paused == 0

def state (s : Schedule) : State := if s.isActive then .active else .suspended

/-- Write the manager and the pause count into a record. -/
def save (s : Schedule) (r : Record) : Record :=
  (r.putString "manager" s.manager).putNat "paused" s.paused.toNat

/-- Read a schedule back: the manager, then the pause count, which must fit 16 bits. -/
def restore (r : Record) : Except Record.Error Schedule := do
  let manager ← r.getString "manager"
  let paused ← r.getUInt16 "paused"
  pure ⟨manager, paused⟩

end Schedule

end Parley
