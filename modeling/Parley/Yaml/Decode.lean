import Parley.Yaml.Document
import Parley.Schema.Basic
import Parley.Text.Numeral

/-!
# Typed values from a YAML document

A `Decode` reads typed values from the events of a loaded document, one node at a time, and
fails with a `Failure`.

A plain scalar means what it looks like: nothing (`~`, `null`, or no text at all), a boolean
(`true`, `False`, `TRUE`, …), an integer (decimal, or hexadecimal, octal or binary after `0x`,
`0o`, `0b`), a finite float, and otherwise a string. Digits with a leading zero, such as `007`,
are a string. A quoted or block scalar is always a string, and a string read from a scalar is
its text whatever it looks like. The core tags `!!bool`, `!!int`, `!!float` and `!!null` force
their meaning.

A failure from reading a value is placed at the event where that value starts, together with
the path of mapping keys and sequence indexes that leads to it; the innermost place wins. A
value that reads past the end of a broken document meets the reason it broke.
-/

namespace Parley

namespace Yaml

/-- Where a value sits in the document. -/
inductive Path where
  | root
  | index (parent : Path) (i : Nat)
  | key (parent : Path) (name : String)
  | alias (parent : Path)
  | unknown (parent : Path)
  deriving Inhabited, Repr

/-- The path as written in messages: `.` for the document itself, else keys joined by dots
and indexes in brackets. -/
def Path.text : Path → String
  | .root => "."
  | .index p i => s!"{p.text}[{i}]"
  | .key p k => (match p with | .root => "" | _ => p.text ++ ".") ++ k
  | .alias p => p.text
  | .unknown p => (match p with | .root => "" | _ => p.text ++ ".") ++ "?"

/-- Why a document does not hold a value of the type asked for. -/
inductive Failure where
  /-- A mismatch, with the place it was found once known. -/
  | message (text : String) (place : Option (Mark × Path))
  | broken (b : Broken)
  | endOfStream
  | moreThanOneDocument
  | recursionLimit (m : Mark)
  | repetitionLimit
  deriving Inhabited

/-- ` at line … column …`, or nothing at the start of the text. -/
def Mark.suffix (m : Mark) : String := if m.isStart then "" else " at " ++ m.text

/-- The text of a failure. -/
def Failure.text : Failure → String
  | .message t none => t
  | .message t (some (m, p)) =>
    let where_ := p.text
    (if where_ == "." then "" else where_ ++ ": ") ++ t ++ m.suffix
  | .broken (.problem p) => p.message
  | .broken (.unknownAnchor m) => "unknown anchor" ++ m.suffix
  | .endOfStream => "EOF while parsing a value"
  | .moreThanOneDocument => "deserializing from YAML containing more than one document is not supported"
  | .recursionLimit m => "recursion limit exceeded" ++ m.suffix
  | .repetitionLimit => "repetition limit exceeded"

/-! ## What scalars mean -/

/-- The meaning of a scalar when no type is asked of it. -/
inductive Resolved where
  | unit
  | bool (b : Bool)
  | unsigned (n : Nat)
  | negative (n : Int)
  /-- An unsigned integer beyond 64 bits. -/
  | wide (n : Nat)
  /-- A negative integer beyond 64 bits. -/
  | wideNegative (n : Int)
  | float (x : Binary64)
  | text (s : String)
  deriving Inhabited

/-- How a resolved scalar is described in messages. -/
def Resolved.found : Resolved → Schema.Found
  | .unit => .unit
  | .bool b => .bool b
  | .unsigned n => .unsigned n
  | .negative n => .signed n
  | .wide n => .other s!"integer `{n}` as u128"
  | .wideNegative n => .other s!"integer `{n}` as i128"
  | .float x => .float x
  | .text s => .string s

def tagBool : String := "tag:yaml.org,2002:bool"
def tagInt : String := "tag:yaml.org,2002:int"
def tagFloat : String := "tag:yaml.org,2002:float"
def tagNull : String := "tag:yaml.org,2002:null"

def isNull (s : String) : Bool := s == "null" || s == "Null" || s == "NULL" || s == "~"

def boolOf? (s : String) : Option Bool :=
  if s == "true" || s == "True" || s == "TRUE" then some true
  else if s == "false" || s == "False" || s == "FALSE" then some false
  else none

/-- Digits with a leading zero, after an optional sign: a string, not a number. -/
def digitsButNotNumber (s : String) : Bool :=
  let cs := match s.toList with
    | '-' :: r => r
    | '+' :: r => r
    | r => r
  1 < cs.length && cs.head? = some '0' && cs.all Char.isDigit

def dropChars (n : Nat) (s : String) : String := String.ofList (s.toList.drop n)

/-- A non-negative integer of `bits` bits, decimal or after a radix prefix. -/
def unsignedOf? (s : String) (bits : Nat) : Option Nat :=
  let parse (t : String) (radix : Nat) : Option Nat :=
    (Text.parseInteger t radix 0 (Nat.pow 2 bits - 1)).toOption.map Int.toNat
  let unpositive := match s.toList with
    | '+' :: r => String.ofList r
    | _ => s
  let signed (t : String) : Bool := t.startsWith "+" || t.startsWith "-"
  let prefixed (pfx : String) (radix : Nat) : Option (Option Nat) :=
    if unpositive.startsWith pfx then
      let rest := dropChars 2 unpositive
      if signed rest then some none else (parse rest radix).map some
    else none
  match prefixed "0x" 16 with
  | some r => r
  | none =>
    match prefixed "0o" 8 with
    | some r => r
    | none =>
      match prefixed "0b" 2 with
      | some r => r
      | none =>
        if signed unpositive || digitsButNotNumber s then none else parse unpositive 10

/-- A negative integer of `bits` bits, decimal or after a negated radix prefix. -/
def negativeOf? (s : String) (bits : Nat) : Option Int :=
  let parse (t : String) (radix : Nat) : Option Int :=
    (Text.parseInteger t radix (-(Nat.pow 2 (bits - 1))) (Nat.pow 2 (bits - 1) - 1)).toOption
  let prefixed (pfx : String) (radix : Nat) : Option Int :=
    if s.startsWith pfx then parse ("-" ++ dropChars 3 s) radix else none
  match prefixed "-0x" 16 with
  | some n => some n
  | none =>
    match prefixed "-0o" 8 with
    | some n => some n
    | none =>
      match prefixed "-0b" 2 with
      | some n => some n
      | none => if digitsButNotNumber s then none else parse s 10

/-- A signed integer of `bits` bits, as a field of a signed type reads it: decimal with an
optional sign, or hexadecimal, octal or binary after `0x`, `0o` or `0b`, which may follow a `+`
or a `-`. A second sign, or a sign after the radix prefix, makes it no number. -/
def signedOf? (s : String) (bits : Nat) : Option Int :=
  let parse (t : String) (radix : Nat) : Option Int :=
    (Text.parseInteger t radix (-(Nat.pow 2 (bits - 1))) (Nat.pow 2 (bits - 1) - 1)).toOption
  let signed (t : String) : Bool := t.startsWith "+" || t.startsWith "-"
  let unpositive? : Option String := match s.toList with
    | '+' :: r => if signed (String.ofList r) then none else some (String.ofList r)
    | _ => some s
  match unpositive? with
  | none => none
  | some unpositive =>
    -- A radix prefix that is there settles the answer when its digits read, or when a sign
    -- follows it; otherwise the next form is tried.
    let positive (pfx : String) (radix : Nat) : Option (Option Int) :=
      if unpositive.startsWith pfx then
        let rest := dropChars 2 unpositive
        if signed rest then some none else (parse rest radix).map some
      else none
    let negative (pfx : String) (radix : Nat) : Option (Option Int) :=
      if s.startsWith pfx then
        let rest := dropChars 3 s
        if signed rest then some none else (parse ("-" ++ rest) radix).map some
      else none
    let prefixed := [positive "0x" 16, negative "-0x" 16, positive "0o" 8, negative "-0o" 8,
      positive "0b" 2, negative "-0b" 2]
    match prefixed.findSome? id with
    | some r => r
    | none => if digitsButNotNumber s then none else parse unpositive 10

/-- The integer a scalar is, if any, in the narrowest kind that holds it. -/
def integerOf? (s : String) : Option Resolved :=
  match unsignedOf? s 64 with
  | some n => some (.unsigned n)
  | none =>
    match negativeOf? s 64 with
    | some n => some (.negative n)
    | none =>
      match unsignedOf? s 128 with
      | some n => some (.wide n)
      | none => (negativeOf? s 128).map .wideNegative

/-- The finite float a scalar is, or an infinity or NaN written the YAML way. -/
def floatOf? (s : String) : Option Binary64 :=
  let unpositive? : Option String := match s.toList with
    | '+' :: '+' :: _ => none
    | '+' :: '-' :: _ => none
    | '+' :: r => some (String.ofList r)
    | _ => some s
  match unpositive? with
  | none => none
  | some u =>
    if u == ".inf" || u == ".Inf" || u == ".INF" then some (Binary64.infinity false)
    else if s == "-.inf" || s == "-.Inf" || s == "-.INF" then some (Binary64.infinity true)
    else if s == ".nan" || s == ".NaN" || s == ".NAN" then some Binary64.nan
    else match Text.parseFloat? u with
      | some x => if x.isFinite then some x else none
      | none => none

/-- The meaning of a plain scalar. -/
def resolvePlain (v : String) : Resolved :=
  if v.isEmpty || isNull v then .unit
  else match boolOf? v with
    | some b => .bool b
    | none =>
      match integerOf? v with
      | some r => r
      | none =>
        if digitsButNotNumber v then .text v
        else match floatOf? v with
          | some x => .float x
          | none => .text v

/-- The meaning of a scalar with its style and tag. -/
def resolve (text : String) (style : Style) (tag : Option String) : Except Schema.Mismatch Resolved :=
  match tag with
  | some t =>
    if t == tagBool then
      match boolOf? text with
      | some b => .ok (.bool b)
      | none => .error (.invalidValue (.string text) "a boolean")
    else if t == tagInt then
      match integerOf? text with
      | some r => .ok r
      | none => .error (.invalidValue (.string text) "an integer")
    else if t == tagFloat then
      match floatOf? text with
      | some x => .ok (.float x)
      | none => .error (.invalidValue (.string text) "a float")
    else if t == tagNull then
      if isNull text then .ok .unit else .error (.invalidValue (.string text) "null")
    else if t.startsWith "!" && style == .plain then .ok (resolvePlain text)
    else .ok (.text text)
  | none => if style == .plain then .ok (resolvePlain text) else .ok (.text text)

/-- The name a tag gives a variant, as for `!North`: the text after the leading `!`, or `!`
itself when nothing follows. A tag is kept as its bytes, one character for each, and names a
variant only when those bytes spell characters. -/
def tagVariant (tag : Option String) : Option String :=
  match tag with
  | some t =>
    match t.toList with
    | '!' :: rest =>
      let bytes := if rest.isEmpty then t.toList else rest
      String.fromUTF8? (ByteArray.mk (bytes.map fun c => c.toNat.toUInt8).toArray)
    | _ => none
  | none => none

def mismatch (m : Schema.Mismatch) : Failure := .message (m.message .yaml) none

/-- The failure of meeting an event where a value of another type was expected. -/
def invalidTypeOf (ev : Node) (expected : String) : Failure :=
  match ev with
  | .scalar text style tag =>
    match resolve text style tag with
    | .ok r => mismatch (.invalidType r.found expected)
    | .error m => mismatch m
  | .sequenceStart _ => mismatch (.invalidType .seq expected)
  | .mappingStart _ => mismatch (.invalidType .map expected)
  | _ => .endOfStream

/-! ## Reading values -/

/-- What a reader knows: the document, the path to the value, and how many more collections
may nest. -/
structure Scope where
  doc : Document
  path : Path
  depth : Nat

/-- Where a reader stands: the position of the next event, and how many aliases were followed. -/
structure Cursor where
  pos : Nat
  jumps : Nat

/-- Readers of typed values. -/
abbrev Decode := ReaderT Scope (StateT Cursor (Except Failure))

namespace Decode

/-- The next event, not taken. -/
def peek : Decode (Node × Mark) := do
  let sc ← read
  match sc.doc.events[(← get).pos]? with
  | some e => pure e
  | none =>
    match sc.doc.broken with
    | some b => throw (.broken b)
    | none => throw .endOfStream

def advance : Decode Unit := modify fun c => { c with pos := c.pos + 1 }

/-- The next event, taken. -/
def next : Decode (Node × Mark) := do
  let e ← peek
  advance
  pure e

/-- A bound on the rounds of a loop over events. -/
def bound : Decode Nat := do pure ((← read).doc.events.size + 1)

def failWith {α : Type} (m : Schema.Mismatch) : Decode α := throw (mismatch m)

/-- Give a mismatch from `body` that has no place yet the mark `m` and the current path. -/
def locate {α : Type} (m : Mark) (body : Decode α) : Decode α := do
  let path := (← read).path
  tryCatch body fun e =>
    match e with
    | .message t none => throw (.message t (some (m, path)))
    | e => throw e

/-- Read from the node an alias repeats, then carry on after the alias. -/
def jump {α : Type} (target : Nat) (body : Decode α) : Decode α := do
  let c ← get
  if (← read).doc.events.size * 100 < c.jumps + 1 then throw .repetitionLimit
  set { c with jumps := c.jumps + 1, pos := target }
  let r ← withReader (fun sc => { sc with path := .alias sc.path }) body
  modify fun c' => { c' with pos := c.pos }
  pure r

/-- Read a value whose first event `k` takes; an alias is followed to its node. -/
def follow {α : Type} (k : Node → Mark → Decode α) : Decode α := do
  let (ev, m) ← next
  match ev with
  | .alias t =>
    jump t do
      let (ev', m') ← next
      k ev' m'
  | _ => k ev m

def atIndex {α : Type} (i : Nat) (body : Decode α) : Decode α :=
  withReader (fun sc => { sc with path := .index sc.path i }) body

/-- Read the value of a key; a key that is not a scalar leaves its place unnamed. -/
def atKey {α : Type} (key : Option String) (body : Decode α) : Decode α :=
  withReader (fun sc => { sc with path := match key with
    | some k => .key sc.path k
    | none => .unknown sc.path }) body

/-- Enter a collection starting at `m`; collections nest at most 128 deep. -/
def nested {α : Type} (m : Mark) (body : Decode α) : Decode α := do
  let sc ← read
  if sc.depth == 0 then throw (.recursionLimit m)
  withReader (fun sc => { sc with depth := sc.depth - 1 }) body

/-- Pass over one node. -/
def ignore : Decode Unit := do
  let mut open_ := 0
  for _ in [0:(← bound)] do
    let (ev, _) ← next
    match ev with
    | .sequenceStart _ => open_ := open_ + 1
    | .mappingStart _ => open_ := open_ + 1
    | .sequenceEnd => open_ := open_ - 1
    | .mappingEnd => open_ := open_ - 1
    | _ => pure ()
    if open_ == 0 then break

/-- A value from a scalar's meaning; `expected` names the type in errors. -/
def scalar {α : Type} (expected : String) (visit : Resolved → Except Schema.Mismatch α) : Decode α :=
  follow fun ev m => locate m do
    match ev with
    | .scalar text style tag =>
      match resolve text style tag with
      | .ok r =>
        match visit r with
        | .ok a => pure a
        | .error e => failWith e
      | .error e => failWith e
    | other => throw (invalidTypeOf other expected)

/-- Whether a number is read straight from a scalar's text: a plain scalar whatever its tag,
or a literal block scalar whose tag is the number's own tag `own`. -/
def readsDirectly (own : String) : Style → Option String → Bool
  | .plain, _ => true
  | .literal, some t => t == own
  | _, _ => false

/-- A number read straight from the text of a scalar that `readsDirectly` with the tag `own`:
`parse` reads the text and `visit` takes what it reads. Another scalar, a text that `parse`
refuses, or a node of another kind fails with what the node means when no type is asked of it;
`expected` names the type in errors. -/
def number {α β : Type} (own expected : String) (parse : String → Option β)
    (visit : β → Except Schema.Mismatch α) : Decode α :=
  follow fun ev m => locate m do
    match ev with
    | .scalar text style tag =>
      match (if readsDirectly own style tag then parse text else none) with
      | some b =>
        match visit b with
        | .ok a => pure a
        | .error e => failWith e
      | none => throw (invalidTypeOf ev expected)
    | other => throw (invalidTypeOf other expected)

/-- The text of a scalar, whatever it looks like; `expected` names the type in errors. -/
def text (expected : String) : Decode String :=
  follow fun ev m => locate m do
    match ev with
    | .scalar t _ _ => pure t
    | other => throw (invalidTypeOf other expected)

def string : Decode String := text "a string"

/-- Whether the next node, not an alias, holds a value rather than nothing. -/
def optionHere {α : Type} (inner : Decode α) : Decode (Option α) := do
  let (ev, _) ← peek
  let present ← match ev with
    | .scalar t style tag =>
      if style != .plain then pure true
      else match tag with
        | some tg =>
          if tg == tagNull then
            if isNull t then pure false else failWith (.invalidValue (.string t) "null")
          else pure true
        | none => pure !(t.isEmpty || isNull t)
    | .void => pure false
    | _ => pure true
  if present then some <$> inner
  else
    advance
    pure none

/-- A value that may be absent: nothing reads as `none`. -/
def option {α : Type} (inner : Decode α) : Decode (Option α) := do
  let (ev, _) ← peek
  match ev with
  | .alias t =>
    advance
    jump t (optionHere inner)
  | _ => optionHere inner

/-- The elements of a sequence up to its end, each read by `element`. -/
def elements {α : Type} (element : Decode α) : Decode (List α) := do
  let mut out := #[]
  for i in [0:(← bound)] do
    let (ev, _) ← peek
    match ev with
    | .sequenceEnd => break
    | .void => break
    | _ => out := out.push (← atIndex i element)
  pure out.toList

/-- Pass over the rest of a sequence read as `len` elements, and its end; more elements are an
error. -/
def endSequence (len : Nat) : Decode Unit := do
  let mut total := len
  for _ in [0:(← bound)] do
    let (ev, _) ← peek
    match ev with
    | .sequenceEnd => break
    | .void => break
    | _ =>
      atIndex total ignore
      total := total + 1
  let _ ← next
  if total != len then
    failWith (.invalidLength total
      (if len == 1 then "sequence of 1 element" else s!"sequence of {len} elements"))

/-- Whether a node stands for an empty collection: nothing, or an empty plain scalar. -/
def isEmptyNode (ev : Node) : Bool :=
  match ev with
  | .void => true
  | .scalar t style _ => t.isEmpty && style == .plain
  | _ => false

/-- A sequence of values. -/
def sequence {α : Type} (element : Decode α) : Decode (List α) :=
  follow fun ev m => locate m do
    match ev with
    | .sequenceStart _ =>
      nested m do
        let xs ← elements element
        endSequence xs.length
        pure xs
    | other => if isEmptyNode other then pure [] else throw (invalidTypeOf other "a sequence")

/-- A sequence of exactly two values; `expected` names the pair in errors. -/
def pair {α β : Type} (expected : String) (first : Decode α) (second : Decode β) : Decode (α × β) :=
  let element {γ : Type} (i : Nat) (d : Decode γ) : Decode γ := do
    let (ev, _) ← peek
    match ev with
    | .sequenceEnd => failWith (.invalidLength i expected)
    | .void => failWith (.invalidLength i expected)
    | _ => atIndex i d
  follow fun ev m => locate m do
    match ev with
    | .sequenceStart _ =>
      nested m do
        let a ← element 0 first
        let b ← element 1 second
        endSequence 2
        pure (a, b)
    | other =>
      if isEmptyNode other then failWith (.invalidLength 0 expected)
      else throw (invalidTypeOf other expected)

/-- Read the entries of a mapping as fields: `field` gives the reader of a known key, which
updates the value so far; unknown keys are passed over, and a known key met twice is an error.
`finish` checks the value against the keys met. -/
def fields {β : Type} (init : β) (field : String → Option (β → Decode β)) : Decode (β × List String) := do
  let mut acc := init
  let mut seen : List String := []
  for _ in [0:(← bound)] do
    let (ev, _) ← peek
    match ev with
    | .mappingEnd => break
    | .void => break
    | _ =>
      let key? := match ev with
        | .scalar t _ _ => some t
        | _ => none
      let key ← text "field identifier"
      match field key with
      | some f =>
        if seen.contains key then failWith (.duplicateField key)
        acc ← atKey key? (f acc)
        seen := key :: seen
      | none => atKey key? ignore
  pure (acc, seen)

/-- A structure read from a mapping; `name` names it in errors. -/
def record {β γ : Type} (name : String) (init : β) (field : String → Option (β → Decode β))
    (finish : β → List String → Except Schema.Mismatch γ) : Decode γ :=
  let done (r : β × List String) : Decode γ :=
    match finish r.1 r.2 with
    | .ok g => pure g
    | .error e => failWith e
  follow fun ev m => locate m do
    match ev with
    | .mappingStart _ =>
      nested m do
        let r ← fields init field
        let g ← done r
        let _ ← next
        pure g
    | other =>
      if isEmptyNode other then done (init, [])
      else throw (invalidTypeOf other s!"struct {name}")

/-- One of named values, written as its name, or as a local tag on an empty node. A name given
by a tag that is no variant is not placed at the node: the value that holds this one places it. -/
def choiceHere {α : Type} (variants : List (String × α)) : Decode α := do
  let (ev, m) ← peek
  let pick (name : String) : Decode α :=
    match variants.lookup name with
    | some a => pure a
    | none => failWith (.unknownVariant name (variants.map (·.1)))
  match ev with
  | .scalar t style tag =>
    match tagVariant tag with
    | some v =>
      let a ← pick v
      locate m do
        advance
        if style != .plain || !(t.isEmpty || isNull t) then failWith (.invalidValue (.string t) "null")
        pure a
    | none => locate m (pick (← text "variant identifier"))
  | .mappingStart tag =>
    match tagVariant tag with
    | some v =>
      let _ ← pick v
      locate m do
        advance
        failWith (.invalidType .map "unit")
    | none => locate m (failWith (.invalidType .map "a YAML tag starting with '!'"))
  | .sequenceStart tag =>
    match tagVariant tag with
    | some v =>
      let _ ← pick v
      locate m do
        advance
        failWith (.invalidType .seq "unit")
    | none => locate m (failWith (.invalidType .seq "a YAML tag starting with '!'"))
  | _ => throw .endOfStream

/-- One of named values; an alias places what goes wrong in its node at the alias. -/
def choice {α : Type} (variants : List (String × α)) : Decode α := do
  let (ev, m) ← peek
  match ev with
  | .alias t =>
    advance
    locate m (jump t (choiceHere variants))
  | _ => choiceHere variants

/-- A value of a type that also reads from text, read by what it is. A scalar that means a
string is read by `fromText`, whose message is given as is. Any other scalar, a sequence or a
mapping is handed to `visit`, with `expected` naming the type. A null, a scalar with an enum tag,
or nothing at all is refused: `accepts` says what kinds of value are taken. -/
def textOr {α : Type} (accepts expected : String) (visit : Resolved → Except Schema.Mismatch α)
    (fromText : String → Except String α) : Decode α :=
  follow fun ev m => locate m do
    match ev with
    | .scalar t style tag =>
      if (tagVariant tag).isSome then failWith (.invalidType (.other "enum") accepts)
      match resolve t style tag with
      | .ok .unit => failWith (.invalidType .unit accepts)
      | .ok (.text s) =>
        match fromText s with
        | .ok a => pure a
        | .error msg => failWith (.custom msg)
      | .ok r =>
        match visit r with
        | .ok a => pure a
        | .error e => failWith e
      | .error e => failWith e
    | .sequenceStart _ => nested m (failWith (.invalidType .seq expected))
    | .mappingStart _ => nested m (failWith (.invalidType .map expected))
    | .void => failWith (.invalidType (.other "Option value") accepts)
    | _ => throw .endOfStream

end Decode

/-- Read the first document of a text with `d`. The document must be whole, and the only one. -/
def decodeText {α : Type} (text : String) (d : Decode α) : Except Failure α :=
  let (doc, more) := Document.read text
  match (ReaderT.run d ⟨doc, .root, 128⟩).run ⟨0, 0⟩ with
  | .error e => .error e
  | .ok (a, _) =>
    match doc.broken with
    | some b => .error (.broken b)
    | none => if more then .error .moreThanOneDocument else .ok a

end Yaml

end Parley
