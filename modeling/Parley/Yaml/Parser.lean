import Parley.Yaml.Scanner

/-!
# YAML events

The parser turns the tokens into a stream of events: the stream and each document open and
close, and every node is a scalar, an alias, or a sequence or mapping that opens, holds its
nodes, and closes. An event carries the mark where its node starts; a node with an anchor or a
tag starts at the first of them.

The parser is a machine of phases with a stack of phases to return to. Each call yields one
event and reads only the tokens it needs, so a text that breaks off late still yields the events
before the break.
-/

namespace Parley

namespace Yaml

/-- What an event says. -/
inductive EventKind where
  | streamStart
  | streamEnd
  | documentStart
  | documentEnd
  | alias (name : String)
  | scalar (anchor tag : Option String) (text : String) (style : Style)
  | sequenceStart (anchor tag : Option String)
  | sequenceEnd
  | mappingStart (anchor tag : Option String)
  | mappingEnd
  deriving Inhabited, Repr

/-- An event and the mark where its node starts. -/
structure Event where
  kind : EventKind
  start : Mark
  deriving Inhabited, Repr

/-- Where the parser stands. -/
inductive Phase where
  | streamStart
  | implicitDocumentStart
  | documentStart
  | documentContent
  | documentEnd
  | blockNode
  | blockNodeOrIndentlessSequence
  | flowNode
  | blockSequenceFirstEntry
  | blockSequenceEntry
  | indentlessSequenceEntry
  | blockMappingFirstKey
  | blockMappingKey
  | blockMappingValue
  | flowSequenceFirstEntry
  | flowSequenceEntry
  | flowSequenceEntryMappingKey
  | flowSequenceEntryMappingValue
  | flowSequenceEntryMappingEnd
  | flowMappingFirstKey
  | flowMappingKey
  | flowMappingValue
  | flowMappingEmptyValue
  | finished
  deriving Inhabited, DecidableEq, Repr

/-- The state of the parser. -/
structure Parser where
  scanner : Scanner
  phase : Phase := .streamStart
  phases : List Phase := []
  marks : List Mark := []
  /-- The tag handles of the current document and their prefixes. -/
  tags : List (String × String) := []
  deriving Inhabited

/-- A parser at the start of a text. -/
def Parser.start (text : String) : Parser := { scanner := Scanner.start text }

/-- Parser steps: they change the parser or fail with a problem. -/
abbrev Parse := StateT Parser (Except Problem)

namespace Parse

/-- Run a scanner step. -/
def scan {α : Type} (m : Scan α) : Parse α := fun p => do
  let (a, s) ← m.run p.scanner
  pure (a, { p with scanner := s })

def peek : Parse Token := scan Scan.peekToken

def skipToken : Parse Unit := scan Scan.skipToken

def bound : Parse Nat := scan Scan.bound

def setPhase (ph : Phase) : Parse Unit := modify fun p => { p with phase := ph }

def pushPhase (ph : Phase) : Parse Unit := modify fun p => { p with phases := ph :: p.phases }

/-- Return to the phase on top of the stack. -/
def popPhase : Parse Unit := modify fun p =>
  match p.phases with
  | ph :: rest => { p with phase := ph, phases := rest }
  | [] => { p with phase := .finished }

def pushMark (m : Mark) : Parse Unit := modify fun p => { p with marks := m :: p.marks }

def popMark : Parse Mark := do
  let p ← get
  match p.marks with
  | m :: rest =>
    set { p with marks := rest }
    pure m
  | [] => pure {}

def failAt {α : Type} (problem : String) (m : Mark) : Parse α :=
  throw { problem, mark := m }

def failIn {α : Type} (context : String) (cm : Mark) (problem : String) (m : Mark) : Parse α :=
  throw { problem, mark := m, context := some (context, cm) }

/-- The empty plain scalar that stands for a missing node. -/
def emptyScalar (m : Mark) : Event := ⟨.scalar none none "" .plain, m⟩

/-- The tag handles every document knows. -/
def defaultTags : List (String × String) := [("!", "!"), ("!!", "tag:yaml.org,2002:")]

/-- Read the directives before a document. -/
def directives : Parse Unit := do
  let mut version := false
  let mut tags : List (String × String) := []
  for _ in [0:(← bound)] do
    let t ← peek
    match t.kind with
    | .versionDirective major minor =>
      if version then failAt "found duplicate %YAML directive" t.start
      if major != 1 || (minor != 1 && minor != 2) then failAt "found incompatible YAML document" t.start
      version := true
    | .tagDirective handle pre =>
      if tags.any (·.1 == handle) then failAt "found duplicate %TAG directive" t.start
      tags := tags ++ [(handle, pre)]
    | _ => break
    skipToken
  let all := defaultTags.foldl (fun acc (h, pre) => if acc.any (·.1 == h) then acc else acc ++ [(h, pre)]) tags
  modify fun p => { p with tags := all }

def streamStart : Parse Event := do
  let t ← peek
  match t.kind with
  | .streamStart =>
    setPhase .implicitDocumentStart
    skipToken
    pure ⟨.streamStart, t.start⟩
  | _ => failAt "did not find expected <stream-start>" t.start

def documentStart (implicit : Bool) : Parse Event := do
  let mut t ← peek
  if !implicit then
    for _ in [0:(← bound)] do
      if !t.isDocumentEnd then break
      skipToken
      t ← peek
  if implicit && !t.isDirective && !t.isDocumentStart && !t.isStreamEnd then
    directives
    pushPhase .documentEnd
    setPhase .blockNode
    pure ⟨.documentStart, t.start⟩
  else if !t.isStreamEnd then
    let start := t.start
    directives
    let u ← peek
    if !u.isDocumentStart then failAt "did not find expected <document start>" u.start
    pushPhase .documentEnd
    setPhase .documentContent
    skipToken
    pure ⟨.documentStart, start⟩
  else
    setPhase .finished
    skipToken
    pure ⟨.streamEnd, t.start⟩

def documentEnd : Parse Event := do
  let t ← peek
  if t.isDocumentEnd then skipToken
  modify fun p => { p with tags := [] }
  setPhase .documentStart
  pure ⟨.documentEnd, t.start⟩

/-- A node: an alias, or a scalar or collection after an optional anchor and tag. -/
def node (block indentless : Bool) : Parse Event := do
  let first ← peek
  if let .alias name := first.kind then
    popPhase
    skipToken
    return ⟨.alias name, first.start⟩
  let start := first.start
  let mut t := first
  let mut anchor : Option String := none
  let mut tagParts : Option (String × String) := none
  let mut tagMark := first.start
  match t.kind with
  | .anchor a =>
    anchor := some a
    skipToken
    t ← peek
    if let .tag h s := t.kind then
      tagParts := some (h, s)
      tagMark := t.start
      skipToken
      t ← peek
  | .tag h s =>
    tagParts := some (h, s)
    skipToken
    t ← peek
    if let .anchor a := t.kind then
      anchor := some a
      skipToken
      t ← peek
  | _ => pure ()
  let tag ← match tagParts with
    | none => pure none
    | some (h, s) =>
      if h.isEmpty then pure (some (beforeZero s))
      else match (← get).tags.find? (·.1 == h) with
        | some (_, pre) => pure (some (beforeZero pre ++ beforeZero s))
        | none => failIn "while parsing a node" start "found undefined tag handle" tagMark
  if indentless && t.isBlockEntry then
    setPhase .indentlessSequenceEntry
    return ⟨.sequenceStart anchor tag, start⟩
  match t.kind with
  | .scalar text style =>
    popPhase
    skipToken
    pure ⟨.scalar anchor tag text style, start⟩
  | .flowSequenceStart =>
    setPhase .flowSequenceFirstEntry
    pure ⟨.sequenceStart anchor tag, start⟩
  | .flowMappingStart =>
    setPhase .flowMappingFirstKey
    pure ⟨.mappingStart anchor tag, start⟩
  | .blockSequenceStart =>
    if block then
      setPhase .blockSequenceFirstEntry
      pure ⟨.sequenceStart anchor tag, start⟩
    else if anchor.isSome || tag.isSome then
      popPhase
      pure ⟨.scalar anchor tag "" .plain, start⟩
    else failIn "while parsing a flow node" start "did not find expected node content" t.start
  | .blockMappingStart =>
    if block then
      setPhase .blockMappingFirstKey
      pure ⟨.mappingStart anchor tag, start⟩
    else if anchor.isSome || tag.isSome then
      popPhase
      pure ⟨.scalar anchor tag "" .plain, start⟩
    else failIn "while parsing a flow node" start "did not find expected node content" t.start
  | _ =>
    if anchor.isSome || tag.isSome then
      popPhase
      pure ⟨.scalar anchor tag "" .plain, start⟩
    else
      failIn (if block then "while parsing a block node" else "while parsing a flow node") start
        "did not find expected node content" t.start

def documentContent : Parse Event := do
  let t ← peek
  if t.isDirective || t.isDocumentStart || t.isDocumentEnd || t.isStreamEnd then
    popPhase
    pure (emptyScalar t.start)
  else node true false

def blockSequenceEntry (first : Bool) : Parse Event := do
  if first then
    pushMark (← peek).start
    skipToken
  let t ← peek
  if t.isBlockEntry then
    skipToken
    let u ← peek
    if !u.isBlockEntry && !u.isBlockEnd then
      pushPhase .blockSequenceEntry
      node true false
    else
      setPhase .blockSequenceEntry
      pure (emptyScalar t.stop)
  else if t.isBlockEnd then
    popPhase
    let _ ← popMark
    skipToken
    pure ⟨.sequenceEnd, t.start⟩
  else
    failIn "while parsing a block collection" (← popMark) "did not find expected '-' indicator" t.start

def indentlessSequenceEntry : Parse Event := do
  let t ← peek
  if t.isBlockEntry then
    skipToken
    let u ← peek
    if !u.isBlockEntry && !u.isKey && !u.isValue && !u.isBlockEnd then
      pushPhase .indentlessSequenceEntry
      node true false
    else
      setPhase .indentlessSequenceEntry
      pure (emptyScalar t.stop)
  else
    popPhase
    pure ⟨.sequenceEnd, t.start⟩

def blockMappingKey (first : Bool) : Parse Event := do
  if first then
    pushMark (← peek).start
    skipToken
  let t ← peek
  if t.isKey then
    skipToken
    let u ← peek
    if !u.isKey && !u.isValue && !u.isBlockEnd then
      pushPhase .blockMappingValue
      node true true
    else
      setPhase .blockMappingValue
      pure (emptyScalar t.stop)
  else if t.isBlockEnd then
    popPhase
    let _ ← popMark
    skipToken
    pure ⟨.mappingEnd, t.start⟩
  else
    failIn "while parsing a block mapping" (← popMark) "did not find expected key" t.start

def blockMappingValue : Parse Event := do
  let t ← peek
  if t.isValue then
    skipToken
    let u ← peek
    if !u.isKey && !u.isValue && !u.isBlockEnd then
      pushPhase .blockMappingKey
      node true true
    else
      setPhase .blockMappingKey
      pure (emptyScalar t.stop)
  else
    setPhase .blockMappingKey
    pure (emptyScalar t.start)

def flowSequenceEntry (first : Bool) : Parse Event := do
  if first then
    pushMark (← peek).start
    skipToken
  let mut t ← peek
  if !t.isFlowSequenceEnd then
    if !first then
      if t.isFlowEntry then
        skipToken
        t ← peek
      else
        failIn "while parsing a flow sequence" (← popMark) "did not find expected ',' or ']'" t.start
    if t.isKey then
      setPhase .flowSequenceEntryMappingKey
      skipToken
      return ⟨.mappingStart none none, t.start⟩
    else if !t.isFlowSequenceEnd then
      pushPhase .flowSequenceEntry
      return ← node false false
  popPhase
  let _ ← popMark
  skipToken
  pure ⟨.sequenceEnd, t.start⟩

def flowSequenceEntryMappingKey : Parse Event := do
  let t ← peek
  if !t.isValue && !t.isFlowEntry && !t.isFlowSequenceEnd then
    pushPhase .flowSequenceEntryMappingValue
    node false false
  else
    skipToken
    setPhase .flowSequenceEntryMappingValue
    pure (emptyScalar t.stop)

def flowSequenceEntryMappingValue : Parse Event := do
  let t ← peek
  if t.isValue then
    skipToken
    let u ← peek
    if !u.isFlowEntry && !u.isFlowSequenceEnd then
      pushPhase .flowSequenceEntryMappingEnd
      return ← node false false
    setPhase .flowSequenceEntryMappingEnd
    return emptyScalar u.start
  setPhase .flowSequenceEntryMappingEnd
  pure (emptyScalar t.start)

def flowSequenceEntryMappingEnd : Parse Event := do
  let t ← peek
  setPhase .flowSequenceEntry
  pure ⟨.mappingEnd, t.start⟩

def flowMappingKey (first : Bool) : Parse Event := do
  if first then
    pushMark (← peek).start
    skipToken
  let mut t ← peek
  if !t.isFlowMappingEnd then
    if !first then
      if t.isFlowEntry then
        skipToken
        t ← peek
      else
        failIn "while parsing a flow mapping" (← popMark) "did not find expected ',' or '\x7d'" t.start
    if t.isKey then
      skipToken
      let u ← peek
      if !u.isValue && !u.isFlowEntry && !u.isFlowMappingEnd then
        pushPhase .flowMappingValue
        return ← node false false
      setPhase .flowMappingValue
      return emptyScalar u.start
    else if !t.isFlowMappingEnd then
      pushPhase .flowMappingEmptyValue
      return ← node false false
  popPhase
  let _ ← popMark
  skipToken
  pure ⟨.mappingEnd, t.start⟩

def flowMappingValue (empty : Bool) : Parse Event := do
  let t ← peek
  if empty then
    setPhase .flowMappingKey
    return emptyScalar t.start
  if t.isValue then
    skipToken
    let u ← peek
    if !u.isFlowEntry && !u.isFlowMappingEnd then
      pushPhase .flowMappingKey
      return ← node false false
    setPhase .flowMappingKey
    return emptyScalar u.start
  setPhase .flowMappingKey
  pure (emptyScalar t.start)

/-- The next event; `none` once the stream has ended. -/
def next : Parse (Option Event) := do
  match (← get).phase with
  | .streamStart => some <$> streamStart
  | .implicitDocumentStart => some <$> documentStart true
  | .documentStart => some <$> documentStart false
  | .documentContent => some <$> documentContent
  | .documentEnd => some <$> documentEnd
  | .blockNode => some <$> node true false
  | .blockNodeOrIndentlessSequence => some <$> node true true
  | .flowNode => some <$> node false false
  | .blockSequenceFirstEntry => some <$> blockSequenceEntry true
  | .blockSequenceEntry => some <$> blockSequenceEntry false
  | .indentlessSequenceEntry => some <$> indentlessSequenceEntry
  | .blockMappingFirstKey => some <$> blockMappingKey true
  | .blockMappingKey => some <$> blockMappingKey false
  | .blockMappingValue => some <$> blockMappingValue
  | .flowSequenceFirstEntry => some <$> flowSequenceEntry true
  | .flowSequenceEntry => some <$> flowSequenceEntry false
  | .flowSequenceEntryMappingKey => some <$> flowSequenceEntryMappingKey
  | .flowSequenceEntryMappingValue => some <$> flowSequenceEntryMappingValue
  | .flowSequenceEntryMappingEnd => some <$> flowSequenceEntryMappingEnd
  | .flowMappingFirstKey => some <$> flowMappingKey true
  | .flowMappingKey => some <$> flowMappingKey false
  | .flowMappingValue => some <$> flowMappingValue false
  | .flowMappingEmptyValue => some <$> flowMappingValue true
  | .finished => pure none

end Parse

end Yaml

end Parley
