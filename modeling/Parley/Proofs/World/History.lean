import Parley.Proofs.World.Agreement

/-!
# The history of a script

A script hands operations to the world and reads back what its ticks and deliveries return.
`Scripted w D` holds of the world `w` a script reaches from a new world, with `D` the events it
was handed so far, in order. Everything ever announced is `D` followed by the queue: the queue is
delivered from its front only and new events join it at the back, so an operation adds to this
history at its end, and what it adds is `Op.published`.

`startedIn` reads the sessions whose starts are among some events, as `endedIn` reads those
whose endings are; `Ordered` says that in every prefix of a history each ending follows the
start of its session.
-/

namespace Parley

/-- The session an event announces the start of, if it is a start. -/
def Event.starts? : Event → Option SessionId
  | .interactionStarted s .. => some s
  | _ => none

/-- The sessions whose starts are among some events. -/
def startedIn (events : List Event) : List SessionId := events.filterMap Event.starts?

@[simp] theorem startedIn_nil : startedIn [] = [] := rfl

@[simp] theorem startedIn_append (l₁ l₂ : List Event) :
    startedIn (l₁ ++ l₂) = startedIn l₁ ++ startedIn l₂ := List.filterMap_append

theorem startedIn_eq_nil {events : List Event} (h : ∀ e ∈ events, e.starts? = none) :
    startedIn events = [] :=
  List.filterMap_eq_nil_iff.mpr h

/-- The events an answer reports delivered. -/
def Reply.events : Reply → List Event
  | .delivered events => events
  | _ => []

/-- What an operation adds to the history: the events it delivers and leaves queued, past
those that were queued before. -/
def Op.published (op : Op) (w : World) : List Event :=
  ((op.exec w).1.events ++ (op.apply w).bus.queue).drop w.bus.queue.length

/-- An operation that delivers from the front of the queue and adds `P` at its back publishes
`P`. -/
theorem Op.published_eq {op : Op} {w : World} {P : List Event}
    (h : (op.exec w).1.events ++ (op.apply w).bus.queue = w.bus.queue ++ P) :
    op.published w = P := by
  unfold published
  rw [h, List.drop_left]

/-- The runs of a script from a new world: the world reached, with the events the script was
handed so far by its ticks and deliveries, in order. -/
inductive Scripted : World → List Event → Prop
  | new (stage : Stage) (settings : InteractionSettings) : Scripted (World.new stage settings) []
  | step {w : World} {D : List Event} (op : Op) :
      Scripted w D → Scripted (op.apply w) (D ++ (op.exec w).1.events)

theorem Scripted.reachable {w : World} {D : List Event} (h : Scripted w D) : Reachable w := by
  induction h with
  | new stage settings => exact .new stage settings
  | step op _ ih => exact .step op ih

/-- Every ending in a prefix of the history follows the start of its session. -/
def Ordered (H : List Event) : Prop :=
  ∀ H₁, H₁ <+: H → ∀ s ∈ endedIn H₁, s ∈ startedIn H₁

theorem Ordered.prefix {H H₁ : List Event} (h : Ordered H) (hp : H₁ <+: H) : Ordered H₁ :=
  fun H₂ hp₂ => h H₂ (hp₂.trans hp)

/-- Events whose endings are all of sessions started before keep a history ordered. -/
theorem Ordered.append {H P : List Event} (h : Ordered H)
    (hP : ∀ s ∈ endedIn P, s ∈ startedIn H) : Ordered (H ++ P) := by
  rintro H₁ ⟨rest, hrest⟩ s hs
  rcases List.append_eq_append_iff.mp hrest with ⟨mid, hH, -⟩ | ⟨P₁, rfl, hP₁⟩
  · exact h H₁ ⟨mid, hH.symm⟩ s hs
  · -- the prefix runs into the new events
    have hsub : endedIn P₁ ⊆ endedIn P := by
      rw [hP₁, endedIn_append]
      exact List.subset_append_left _ _
    rw [startedIn_append]
    rw [endedIn_append] at hs
    rcases List.mem_append.mp hs with hs | hs
    · exact List.mem_append_left _ (h H (List.prefix_refl H) s hs)
    · exact List.mem_append_left _ (hP s (hsub hs))

end Parley
