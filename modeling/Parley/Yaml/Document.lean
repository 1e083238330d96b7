import Parley.Yaml.Parser

/-!
# Loading a YAML document

Only the first document of a text is read into values. Its events are collected with their
marks; an alias becomes the position of the event its anchor marks. Anchors are numbered as
they are met, and an alias stands for whatever event its number last marked when the document
ends (see `Anchors`). A text without any document stands for a single `void` event at the end of the text.

A document whose text breaks off keeps the events read before the break, together with the
reason. A reader only meets the reason when it reads past those events.
-/

namespace Parley

namespace Yaml

/-- An event of a loaded document. -/
inductive Node where
  | scalar (text : String) (style : Style) (tag : Option String)
  | sequenceStart (tag : Option String)
  | sequenceEnd
  | mappingStart (tag : Option String)
  | mappingEnd
  /-- A repeat of the node whose first event is at this position (while the document is being
  collected, the number of its anchor). -/
  | alias (target : Nat)
  /-- The stand-in for a text without documents. -/
  | void
  deriving Inhabited, Repr

/-- Why the events of a document stop early. -/
inductive Broken where
  | problem (p : Problem)
  | unknownAnchor (m : Mark)
  deriving Inhabited, Repr

/-- The events of one document. -/
structure Document where
  events : Array (Node × Mark)
  broken : Option Broken
  deriving Inhabited

/-- The anchors met so far: each name with its number, and the position of the event each
number stands for, the latest first. A new anchor takes as its number how many names are known,
so an anchor given again under a known name adds no name, and the next new name is given the
same number: from then on both names stand for the later of the two events. -/
structure Anchors where
  names : List (String × Nat)
  positions : List (Nat × Nat)

/-- Remember an anchor for the event about to be added at `position`. -/
def Anchors.note (a : Anchors) (anchor : Option String) (position : Nat) : Anchors :=
  match anchor with
  | some name =>
    let number := a.names.length
    ⟨(name, number) :: a.names.filter (·.1 != name), (number, position) :: a.positions⟩
  | none => a

/-- The events with each alias number replaced by the position it stands for at the end. -/
def Anchors.settle (a : Anchors) (events : Array (Node × Mark)) : Array (Node × Mark) :=
  events.map fun (n, m) =>
    match n with
    | .alias number => (.alias ((a.positions.lookup number).getD 0), m)
    | _ => (n, m)

/-- Collect the events of the next document; `none` when the stream ends without one and this
is not the first document. Aliases are collected as anchor numbers. -/
def gather (first : Bool) : Nat → Parser → Array (Node × Mark) → Anchors →
    Option Document × Anchors × Parser
  | 0, p, events, a => (some ⟨events, none⟩, a, p)
  | fuel + 1, p, events, a =>
    match Parse.next.run p with
    | .error e => (some ⟨events, some (.problem e)⟩, a, p)
    | .ok (none, p') => (if first then some ⟨events, none⟩ else none, a, p')
    | .ok (some ev, p') =>
      let add (n : Node) (anchor : Option String) :=
        gather first fuel p' (events.push (n, ev.start)) (a.note anchor events.size)
      match ev.kind with
      | .streamStart => gather first fuel p' events a
      | .documentStart => gather first fuel p' events a
      | .streamEnd =>
        if first then
          (some ⟨if events.isEmpty then #[(.void, ev.start)] else events, none⟩, a, p')
        else (none, a, p')
      | .documentEnd => (some ⟨events, none⟩, a, p')
      | .alias name =>
        match a.names.lookup name with
        | some number => gather first fuel p' (events.push (.alias number, ev.start)) a
        | none => (some ⟨events, some (.unknownAnchor ev.start)⟩, a, p')
      | .scalar anchor tag text style => add (.scalar text style tag) anchor
      | .sequenceStart anchor tag => add (.sequenceStart tag) anchor
      | .sequenceEnd => add .sequenceEnd none
      | .mappingStart anchor tag => add (.mappingStart tag) anchor
      | .mappingEnd => add .mappingEnd none

/-- Collect the events of the next document, with each alias at the position it stands for. -/
def collect (first : Bool) (fuel : Nat) (p : Parser) : Option Document × Parser :=
  let (doc, a, p) := gather first fuel p #[] ⟨[], []⟩
  (doc.map fun d => { d with events := a.settle d.events }, p)

/-- The first document of a text, and whether a second one follows it. -/
def Document.read (text : String) : Document × Bool :=
  let fuel := 8 * text.length + 64
  let (doc, p) := collect true fuel (Parser.start text)
  let doc := doc.getD ⟨#[], none⟩
  let more := match doc.broken with
    | some _ => false
    | none => (collect false fuel p).1.isSome
  (doc, more)

end Yaml

end Parley
