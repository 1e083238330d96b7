import Parley.Component.Mind
import Parley.World.Event

/-!
# A presentation without a screen

The stage keeps the history of conversation requests and the list of open dialogs. A request
is created for a mind with a width and a height; it fails when the size is zero or wider than
the screen, and then when the mind has no dialogue. Placing a request opens its dialog with a
countdown of `autoFinish` ticks, or none. Each tick counts every running countdown down, never
below zero, and closes the dialogs that reach zero, announcing that they finished. Finishing
closes an open dialog at once; dismissing closes it silently and marks its request.

The history holds at most `maxRequests` entries. Before a new request is added to a full
history, the oldest closed requests, dismissed or placed and no longer open, are dropped until
there is room or none is closed.
-/

namespace Parley

/-- Why the presentation refused. -/
inductive PresentationError where
  | unknownDialog (dialog : DialogId)
  | invalidSize (width height : Nat)
  | noDialogue (mindId : String)
  deriving DecidableEq, Repr

/-- A conversation the stage was asked to show. -/
structure Request where
  dialog : DialogHandle
  mind : Mind
  width : Nat
  height : Nat
  placedAt : Option (Int × Int)
  dismissed : Bool
  deriving DecidableEq, Repr

/-- An open dialog and the ticks left before it finishes by itself. -/
structure OpenDialog where
  handle : DialogHandle
  remaining : Option Nat
  deriving DecidableEq, Repr

/-- The headless presentation. -/
structure Stage where
  screenLength : Nat
  autoFinish : Option Nat
  requests : List Request
  openDialogs : List OpenDialog
  deriving DecidableEq, Repr

namespace Stage

/-- The most requests the history keeps. -/
def maxRequests : Nat := 256

/-- A stage without history. -/
def new (screenLength : Nat) (autoFinish : Option Nat) : Stage := ⟨screenLength, autoFinish, [], []⟩

def isOpen (s : Stage) (d : DialogId) : Bool := s.openDialogs.any (·.handle.id == d)

/-- A request is closed when it was dismissed, or placed and is no longer open. -/
def isClosed (s : Stage) (r : Request) : Bool :=
  r.dismissed || (r.placedAt.isSome && !s.isOpen r.dialog.id)

/-- Drop the oldest closed requests while the history is full; `fuel` bounds the rounds. -/
def trim (s : Stage) : Nat → Stage
  | 0 => s
  | fuel + 1 =>
    if s.requests.length < maxRequests then s
    else match s.requests.findIdx? s.isClosed with
      | some i => trim { s with requests := s.requests.eraseIdx i } fuel
      | none => s

/-- Add a request to the history, making room first. -/
def push (s : Stage) (r : Request) : Stage :=
  let s := s.trim s.requests.length
  { s with requests := s.requests ++ [r] }

/-- Ask for a conversation with a mind, under a handle drawn by the caller. -/
def create (s : Stage) (handle : DialogHandle) (mind : Mind) (width height : Nat) :
    Except PresentationError Stage :=
  if width = 0 ∨ height = 0 ∨ s.screenLength < width then .error (.invalidSize width height)
  else if !mind.hasDialogue then .error (.noDialogue mind.id)
  else .ok (s.push ⟨handle, mind, width, height, none, false⟩)

/-- Place a requested dialog and open it. It must have been requested, not dismissed and not
placed yet. -/
def place (s : Stage) (x y : Int) (handle : DialogHandle) : Except PresentationError Stage :=
  match s.requests.findIdx? (·.dialog.id == handle.id) with
  | some i =>
    match s.requests[i]? with
    | some r =>
      if r.dismissed || r.placedAt.isSome then .error (.unknownDialog handle.id)
      else .ok { s with
        requests := s.requests.set i { r with placedAt := some (x, y) }
        openDialogs := s.openDialogs ++ [⟨handle, s.autoFinish⟩] }
    | none => .error (.unknownDialog handle.id)
  | none => .error (.unknownDialog handle.id)

/-- Close a dialog: the handle it was opened with, if it was open. -/
def close (s : Stage) (d : DialogId) : Option (DialogHandle × Stage) :=
  match s.openDialogs.findIdx? (·.handle.id == d) with
  | some i =>
    match s.openDialogs[i]? with
    | some o => some (o.handle, { s with openDialogs := s.openDialogs.eraseIdx i })
    | none => none
  | none => none

/-- Close a dialog if open, and mark its first request dismissed. -/
def dismiss (s : Stage) (d : DialogId) : Stage :=
  let s := match s.close d with
    | some (_, s') => s'
    | none => s
  match s.requests.findIdx? (·.dialog.id == d) with
  | some i => { s with requests := s.requests.modify i fun r => { r with dismissed := true } }
  | none => s

/-- The event of a finished dialog. -/
def finished (h : DialogHandle) : Event := .dialogFinished h.id h.signal

/-- Finish an open dialog: close it and announce it. `none` when it was not open. -/
def finish (s : Stage) (d : DialogId) : Option (Event × Stage) :=
  (s.close d).map fun (h, s') => (finished h, s')

/-- One tick: count every countdown down and close the dialogs that reach zero, in the order
they were opened, announcing each. -/
def tick (s : Stage) : List Event × Stage :=
  let counted := s.openDialogs.map fun o => { o with remaining := o.remaining.map (· - 1) }
  let expired := counted.filter (·.remaining == some 0)
  let s := { s with openDialogs := counted }
  expired.foldl (fun (events, st) o =>
    match st.close o.handle.id with
    | some (h, st') => (events ++ [finished h], st')
    | none => (events, st)) ([], s)

end Stage

end Parley
