import Parley.Yaml.Token

/-!
# Cutting YAML text into tokens

The scanner reads the text one character at a time and queues tokens for the parser. Two
pieces of state shape what it emits.

* The indentation stack. In block context, a collection that begins further right than the
  current indentation pushes a level and emits a start token; a line that begins further left
  pops levels, emitting one block end token for each.
* Simple keys. A scalar, an anchor, an alias, a tag or a flow collection may turn out to be the
  key of a mapping once a `:` follows it on the same line. The scanner remembers, for every
  flow level, where such a key could begin; a `:` that follows inserts a key token, and perhaps
  a block mapping start, before the remembered token. A token may only leave the queue when no
  remembered key could still be placed before it.

Every loop consumes at least one character per round, so each is bounded by the length of the
text.
-/

namespace Parley

namespace Yaml

/-- A place where a simple key may begin. -/
structure SimpleKey where
  possible : Bool := false
  /-- A key that must be completed: it stands at the indentation of its block mapping. -/
  required : Bool := false
  /-- The number of the token the key would be inserted before. -/
  tokenNumber : Nat := 0
  mark : Mark := {}
  deriving Inhabited

/-- The state of the scanner. -/
structure Scanner where
  input : Array Char
  /-- The byte offset of the first character that may not appear in YAML text. -/
  forbidden : Option Nat := none
  pos : Nat := 0
  mark : Mark := {}
  queue : List Token := []
  /-- The number of tokens handed to the parser. -/
  taken : Nat := 0
  ready : Bool := false
  started : Bool := false
  finished : Bool := false
  flowLevel : Nat := 0
  indent : Int := -1
  indents : List Int := []
  keyAllowed : Bool := false
  keys : Array SimpleKey := #[]
  deriving Inhabited

/-- The number of UTF-8 bytes of a character. -/
def utf8Width (c : Char) : Nat :=
  if c.toNat < 0x80 then 1 else if c.toNat < 0x800 then 2 else if c.toNat < 0x10000 then 3 else 4

/-- The byte offset of the first character of `chars` that may not appear, counting from
`offset`. -/
def firstForbidden : List Char → Nat → Option Nat
  | [], _ => none
  | c :: rest, offset => if isPermitted c then firstForbidden rest (offset + utf8Width c) else some offset

/-- A scanner at the start of a text. The text is known to be UTF-8, so a byte order mark is
not taken away here: it is a character like any other, which the scanner steps over where a
token may begin at the start of a line (see `toNextToken`). -/
def Scanner.start (text : String) : Scanner :=
  let chars := text.toList
  { input := chars.toArray, forbidden := firstForbidden chars 0 }

/-- Scanner steps: they change the scanner or fail with a problem. -/
abbrev Scan := StateT Scanner (Except Problem)

namespace Scan

/-- The character `k` places ahead; the end of the text reads as the character zero. -/
def peekAt (k : Nat) : Scan Char := do
  let s ← get
  pure (s.input.getD (s.pos + k) (Char.ofNat 0))

def here : Scan Char := peekAt 0

def mark : Scan Mark := do pure (← get).mark

/-- A bound on the rounds of any loop over the text. -/
def bound : Scan Nat := do pure ((← get).input.size + 2)

/-- Fail at the current position. -/
def fail {α : Type} (problem : String) (context : Option (String × Mark)) : Scan α := do
  throw { problem, mark := (← get).mark, context }

/-- Move over the current character; the index counts its bytes, the column one. -/
def skip : Scan Unit := modify fun s =>
  let bytes := utf8Width (s.input.getD s.pos (Char.ofNat 0))
  { s with pos := s.pos + 1,
           mark := { s.mark with index := s.mark.index + bytes, column := s.mark.column + 1 } }

/-- Move over a line break of `width` characters. -/
def newLine (width : Nat) : Scan Unit := modify fun s =>
  let bytes := ((s.input.extract s.pos (s.pos + width)).toList.map utf8Width).foldl (· + ·) 0
  { s with pos := s.pos + width, mark := ⟨s.mark.index + bytes, s.mark.line + 1, 0⟩ }

/-- Move over a line break, a carriage return and line feed pair counting as one. -/
def skipLine : Scan Unit := do
  let c ← here
  if c = '\r' && (← peekAt 1) = '\n' then newLine 2
  else if isBreak c then newLine 1

/-- Append the current character and move over it. -/
def read (acc : String) : Scan String := do
  let c ← here
  skip
  pure (acc.push c)

/-- Append a line break, normalized to a line feed unless it is a line or paragraph separator,
and move over it. -/
def readLine (acc : String) : Scan String := do
  let c ← here
  if c = '\r' && (← peekAt 1) = '\n' then
    newLine 2
    pure (acc.push '\n')
  else if c = '\r' || c = '\n' || c = '\x85' then
    newLine 1
    pure (acc.push '\n')
  else if c = '\u2028' || c = '\u2029' then
    newLine 1
    pure (acc.push c)
  else pure acc

/-- Move over characters while `test` holds of the current one. -/
def skipWhile (test : Char → Bool) : Scan Unit := do
  for _ in [0:(← bound)] do
    if !test (← here) then break
    skip

def skipBlanks : Scan Unit := skipWhile isBlank

/-- Move to the end of the line. -/
def skipToBreak : Scan Unit := skipWhile fun c => !isBreakOrEnd c

/-- Whether a document marker `---` or `...` followed by a blank starts here. -/
def atDocumentMarker : Scan Bool := do
  let a ← peekAt 0
  let b ← peekAt 1
  let c ← peekAt 2
  let d ← peekAt 3
  pure (((a = '-' && b = '-' && c = '-') || (a = '.' && b = '.' && c = '.')) && isBlankOrEnd d)

def enqueue (t : Token) : Scan Unit := modify fun s => { s with queue := s.queue ++ [t] }

/-- Insert a token at a place of a list. -/
def insertAt : Nat → Token → List Token → List Token
  | 0, t, ts => t :: ts
  | _ + 1, t, [] => [t]
  | n + 1, t, u :: ts => u :: insertAt n t ts

/-! ## Simple keys -/

def keyProblem {α : Type} (k : SimpleKey) : Scan α :=
  fail "could not find expected ':'" (some ("while scanning a simple key", k.mark))

/-- Forget the keys that can no longer be completed: a simple key lies on one line and ends
within 1024 bytes of its start. -/
def staleKeys : Scan Unit := do
  let s ← get
  let mut keys := #[]
  for k in s.keys do
    if k.possible && (k.mark.line < s.mark.line || k.mark.index + 1024 < s.mark.index) then
      if k.required then keyProblem k
      keys := keys.push { k with possible := false }
    else keys := keys.push k
  modify fun s => { s with keys }

/-- Forget the key of the current flow level. -/
def removeKey : Scan Unit := do
  let s ← get
  match s.keys.back? with
  | none => pure ()
  | some k =>
    if k.possible && k.required then keyProblem k
    set { s with keys := s.keys.pop.push { k with possible := false } }

/-- Remember that a simple key may begin here. -/
def saveKey : Scan Unit := do
  let s ← get
  if s.keyAllowed then
    let key : SimpleKey := {
      possible := true
      required := s.flowLevel == 0 && s.indent == (s.mark.column : Int)
      tokenNumber := s.taken + s.queue.length
      mark := s.mark }
    removeKey
    modify fun s => { s with keys := s.keys.pop.push key }

def increaseFlow : Scan Unit := modify fun s =>
  { s with keys := s.keys.push {}, flowLevel := s.flowLevel + 1 }

def decreaseFlow : Scan Unit := modify fun s =>
  if s.flowLevel > 0 then { s with flowLevel := s.flowLevel - 1, keys := s.keys.pop } else s

/-! ## Indentation -/

/-- In block context, open a collection at `column` if it lies right of the indentation; the
start token is appended, or inserted before the token of the given number. -/
def rollIndent (column : Int) (number : Option Nat) (kind : TokenKind) (m : Mark) : Scan Unit := do
  let s ← get
  if s.flowLevel == 0 && s.indent < column then
    let t : Token := ⟨kind, m, m⟩
    let queue := match number with
      | none => s.queue ++ [t]
      | some n => insertAt (n - s.taken) t s.queue
    set { s with indents := s.indent :: s.indents, indent := column, queue }

/-- In block context, close every collection indented further than `column`. -/
def unrollIndent (column : Int) : Scan Unit := do
  let s ← get
  if s.flowLevel != 0 then return
  for _ in [0:s.indents.length + 1] do
    let s ← get
    if s.indent ≤ column then break
    match s.indents with
    | top :: rest =>
      let t : Token := ⟨.blockEnd, s.mark, s.mark⟩
      set { s with queue := s.queue ++ [t], indent := top, indents := rest }
    | [] => break

/-! ## Between tokens -/

/-- Move over blanks, comments and line breaks up to the next token. A byte order mark at the
start of a line is stepped over as one column. A tab may not begin a line of block context, nor
follow an indicator that allows a key. -/
def toNextToken : Scan Unit := do
  for _ in [0:(← bound)] do
    if (← get).mark.column == 0 && (← here) = '\uFEFF' then skip
    for _ in [0:(← bound)] do
      let s ← get
      let c ← here
      if !(c = ' ' || ((s.flowLevel > 0 || !s.keyAllowed) && c = '\t')) then break
      skip
    if (← here) = '#' then skipToBreak
    if isBreak (← here) then
      skipLine
      if (← get).flowLevel == 0 then modify fun s => { s with keyAllowed := true }
    else break

/-! ## Directives -/

def directiveName (start : Mark) : Scan String := do
  let mut name := ""
  for _ in [0:(← bound)] do
    if !isWord (← here) then break
    name ← read name
  if name.isEmpty then
    fail "could not find expected directive name" (some ("while scanning a directive", start))
  if !isBlankOrEnd (← here) then
    fail "found unexpected non-alphabetical character" (some ("while scanning a directive", start))
  pure name

def versionNumber (start : Mark) : Scan Nat := do
  let mut value := 0
  let mut length := 0
  for _ in [0:(← bound)] do
    let c ← here
    if !c.isDigit then break
    length := length + 1
    if length > 9 then
      fail "found extremely long version number" (some ("while scanning a %YAML directive", start))
    value := value * 10 + (c.toNat - '0'.toNat)
    skip
  if length == 0 then
    fail "did not find expected version number" (some ("while scanning a %YAML directive", start))
  pure value

def versionValue (start : Mark) : Scan TokenKind := do
  skipBlanks
  let major ← versionNumber start
  if (← here) != '.' then
    fail "did not find expected digit or '.' character" (some ("while scanning a %YAML directive", start))
  skip
  let minor ← versionNumber start
  pure (.versionDirective major minor)

/-- A tag handle: `!`, `!!` or `!name!`. -/
def tagHandle (directive : Bool) (start : Mark) : Scan String := do
  let what := if directive then "while scanning a tag directive" else "while scanning a tag"
  if (← here) != '!' then fail "did not find expected '!'" (some (what, start))
  let mut handle ← read ""
  for _ in [0:(← bound)] do
    if !isWord (← here) then break
    handle ← read handle
  if (← here) = '!' then handle ← read handle
  else if directive && handle != "!" then
    fail "did not find expected '!'" (some ("while parsing a tag directive", start))
  pure handle

/-- Whether a character may appear in a tag; a verbatim tag also takes flow indicators. -/
def isUriChar (verbatim : Bool) (c : Char) : Bool :=
  isWord c || ";/?:@&=+$.%!~*'()".contains c || (verbatim && ",[]".contains c)

/-- The bytes of one escaped UTF-8 sequence such as `%C3%A9`, one character for each byte: the
escapes need only have the shape of a character, and `%C0%80` spells no character. -/
def uriEscapes (directive : Bool) (start : Mark) : Scan String := do
  let what := if directive then "while parsing a %TAG directive" else "while parsing a tag"
  let mut width := 0
  let mut bytes : Array UInt8 := #[]
  for _ in [0:4] do
    if !((← here) = '%' && isHex (← peekAt 1) && isHex (← peekAt 2)) then
      fail "did not find URI escaped octet" (some (what, start))
    let octet := hexValue (← peekAt 1) * 16 + hexValue (← peekAt 2)
    if width == 0 then
      width := if octet < 0x80 then 1 else if octet / 32 == 6 then 2 else if octet / 16 == 14 then 3
        else if octet / 8 == 30 then 4 else 0
      if width == 0 then fail "found an incorrect leading UTF-8 octet" (some (what, start))
    else if octet / 64 != 2 then fail "found an incorrect trailing UTF-8 octet" (some (what, start))
    bytes := bytes.push octet.toUInt8
    skip
    skip
    skip
    if bytes.size == width then break
  pure (String.ofList (bytes.toList.map fun b => Char.ofNat b.toNat))

/-- The rest of a tag after `head`, whose leading `!` is not kept. -/
def tagUri (verbatim directive : Bool) (head : String) (start : Mark) : Scan String := do
  let mut uri := String.ofList (head.toList.drop 1)
  let mut length := head.length
  for _ in [0:(← bound)] do
    let c ← here
    if !isUriChar verbatim c then break
    if c = '%' then uri := uri ++ (← uriEscapes directive start)
    else uri ← read uri
    length := length + 1
  if length == 0 then
    fail "did not find expected tag URI"
      (some (if directive then "while parsing a %TAG directive" else "while parsing a tag", start))
  pure uri

def tagDirectiveValue (start : Mark) : Scan TokenKind := do
  skipBlanks
  let handle ← tagHandle true start
  if !isBlank (← here) then
    fail "did not find expected whitespace" (some ("while scanning a %TAG directive", start))
  skipBlanks
  let pre ← tagUri true true "" start
  if !isBlankOrEnd (← here) then
    fail "did not find expected whitespace or line break" (some ("while scanning a %TAG directive", start))
  pure (.tagDirective handle pre)

def fetchDirective : Scan Unit := do
  unrollIndent (-1)
  removeKey
  modify fun s => { s with keyAllowed := false }
  let start ← mark
  skip
  let name ← directiveName start
  let kind ← if name = "YAML" then versionValue start
    else if name = "TAG" then tagDirectiveValue start
    else fail "found unknown directive name" (some ("while scanning a directive", start))
  let stop ← mark
  skipBlanks
  if (← here) = '#' then skipToBreak
  if !isBreakOrEnd (← here) then
    fail "did not find expected comment or line break" (some ("while scanning a directive", start))
  if isBreak (← here) then skipLine
  enqueue ⟨kind, start, stop⟩

/-! ## Indicators -/

def fetchDocumentMarker (kind : TokenKind) : Scan Unit := do
  unrollIndent (-1)
  removeKey
  modify fun s => { s with keyAllowed := false }
  let start ← mark
  skip
  skip
  skip
  enqueue ⟨kind, start, ← mark⟩

def fetchFlowStart (kind : TokenKind) : Scan Unit := do
  saveKey
  increaseFlow
  modify fun s => { s with keyAllowed := true }
  let start ← mark
  skip
  enqueue ⟨kind, start, ← mark⟩

def fetchFlowEnd (kind : TokenKind) : Scan Unit := do
  removeKey
  decreaseFlow
  modify fun s => { s with keyAllowed := false }
  let start ← mark
  skip
  enqueue ⟨kind, start, ← mark⟩

def fetchFlowEntry : Scan Unit := do
  removeKey
  modify fun s => { s with keyAllowed := true }
  let start ← mark
  skip
  enqueue ⟨.flowEntry, start, ← mark⟩

def fetchBlockEntry : Scan Unit := do
  let s ← get
  if s.flowLevel == 0 then
    if !s.keyAllowed then fail "block sequence entries are not allowed in this context" none
    rollIndent s.mark.column none .blockSequenceStart s.mark
  removeKey
  modify fun s => { s with keyAllowed := true }
  let start ← mark
  skip
  enqueue ⟨.blockEntry, start, ← mark⟩

def fetchKey : Scan Unit := do
  let s ← get
  if s.flowLevel == 0 then
    if !s.keyAllowed then fail "mapping keys are not allowed in this context" none
    rollIndent s.mark.column none .blockMappingStart s.mark
  removeKey
  modify fun s => { s with keyAllowed := s.flowLevel == 0 }
  let start ← mark
  skip
  enqueue ⟨.key, start, ← mark⟩

def fetchValue : Scan Unit := do
  let s ← get
  let k := s.keys.back?.getD {}
  if k.possible then
    set { s with queue := insertAt (k.tokenNumber - s.taken) ⟨.key, k.mark, k.mark⟩ s.queue }
    rollIndent k.mark.column (some k.tokenNumber) .blockMappingStart k.mark
    modify fun s => { s with keys := s.keys.pop.push { k with possible := false }, keyAllowed := false }
  else
    if s.flowLevel == 0 then
      if !s.keyAllowed then fail "mapping values are not allowed in this context" none
      rollIndent s.mark.column none .blockMappingStart s.mark
    modify fun s => { s with keyAllowed := s.flowLevel == 0 }
  let start ← mark
  skip
  enqueue ⟨.value, start, ← mark⟩

/-! ## Anchors, aliases and tags -/

def scanAnchor (isAlias : Bool) : Scan Token := do
  let start ← mark
  skip
  let mut name := ""
  for _ in [0:(← bound)] do
    if !isWord (← here) then break
    name ← read name
  let stop ← mark
  let c ← here
  if name.isEmpty || !(isBlankOrEnd c || "?:,]\x7d%@`".contains c) then
    fail "did not find expected alphabetic or numeric character"
      (some (if isAlias then "while scanning an alias" else "while scanning an anchor", start))
  pure ⟨if isAlias then .alias name else .anchor name, start, stop⟩

def scanTag : Scan Token := do
  let start ← mark
  let (handle, suffix) ← if (← peekAt 1) = '<' then do
      skip
      skip
      let suffix ← tagUri true false "" start
      if (← here) != '>' then fail "did not find the expected '>'" (some ("while scanning a tag", start))
      skip
      pure ("", suffix)
    else do
      let handle ← tagHandle false start
      let hs := handle.toList
      if hs.length > 1 && hs.getLast? = some '!' then
        pure (handle, ← tagUri false false "" start)
      else
        let suffix ← tagUri false false handle start
        if (beforeZero suffix).isEmpty then pure ("", "!") else pure ("!", suffix)
  let c ← here
  if !isBlankOrEnd c then
    if (← get).flowLevel == 0 || c != ',' then
      fail "did not find expected whitespace or line break" (some ("while scanning a tag", start))
  pure ⟨.tag handle suffix, start, ← mark⟩

def fetchToken (scan : Scan Token) : Scan Unit := do
  saveKey
  modify fun s => { s with keyAllowed := false }
  enqueue (← scan)

/-! ## Block scalars -/

/-- Move over the indentation and empty lines before a line of a block scalar, collecting the
line breaks; an unknown indentation is fixed by the most indented of these lines. Returns the
indentation, the breaks and the end of the last break. -/
def blockBreaks (indent : Nat) (start : Mark) (breaks : String) : Scan (Nat × String × Mark) := do
  let mut breaks := breaks
  let mut maxIndent := 0
  let mut stop ← mark
  for _ in [0:(← bound)] do
    for _ in [0:(← bound)] do
      let col := (← get).mark.column
      if !((indent == 0 || col < indent) && (← here) = ' ') then break
      skip
    let col := (← get).mark.column
    if col > maxIndent then maxIndent := col
    if (indent == 0 || col < indent) && (← here) = '\t' then
      fail "found a tab character where an indentation space is expected"
        (some ("while scanning a block scalar", start))
    if !isBreak (← here) then break
    breaks ← readLine breaks
    stop ← mark
  if indent == 0 then
    let least := max ((← get).indent + 1) 1
    pure (max maxIndent least.toNat, breaks, stop)
  else pure (indent, breaks, stop)

def scanBlockScalar (literal : Bool) : Scan Token := do
  let start ← mark
  let what := some ("while scanning a block scalar", start)
  skip
  let mut chomping : Int := 0
  let mut increment := 0
  let c ← here
  if c = '+' || c = '-' then
    chomping := if c = '+' then 1 else -1
    skip
    let d ← here
    if d.isDigit then
      if d = '0' then fail "found an indentation indicator equal to 0" what
      increment := d.toNat - '0'.toNat
      skip
  else if c.isDigit then
    if c = '0' then fail "found an indentation indicator equal to 0" what
    increment := c.toNat - '0'.toNat
    skip
    let d ← here
    if d = '+' || d = '-' then
      chomping := if d = '+' then 1 else -1
      skip
  skipBlanks
  if (← here) = '#' then skipToBreak
  if !isBreakOrEnd (← here) then fail "did not find expected comment or line break" what
  if isBreak (← here) then skipLine
  let outer := (← get).indent
  let given : Nat := if increment == 0 then 0
    else if outer ≥ 0 then (outer + increment).toNat else increment
  let (first, breaks, stop) ← blockBreaks given start ""
  let mut indent := first
  let mut trailingBreaks := breaks
  let mut stop := stop
  let mut text := ""
  let mut leadingBreak := ""
  let mut leadingBlank := false
  for _ in [0:(← bound)] do
    if !((← get).mark.column == indent && !isEnd (← here)) then break
    let trailingBlank := isBlank (← here)
    if !literal && leadingBreak.startsWith "\n" && !leadingBlank && !trailingBlank then
      if trailingBreaks.isEmpty then text := text.push ' '
    else text := text ++ leadingBreak
    leadingBreak := ""
    text := text ++ trailingBreaks
    trailingBreaks := ""
    leadingBlank := isBlank (← here)
    for _ in [0:(← bound)] do
      if isBreakOrEnd (← here) then break
      text ← read text
    leadingBreak ← readLine leadingBreak
    let (i, b, e) ← blockBreaks indent start trailingBreaks
    indent := i
    trailingBreaks := b
    stop := e
  if chomping != -1 then text := text ++ leadingBreak
  if chomping == 1 then text := text ++ trailingBreaks
  pure ⟨.scalar text (if literal then .literal else .folded), start, stop⟩

/-! ## Quoted scalars -/

/-- The character a one-letter escape stands for, or the number of hexadecimal digits that
follow it. -/
def escapeOf (c : Char) : Option (Char ⊕ Nat) :=
  match c with
  | '0' => some (.inl (Char.ofNat 0))
  | 'a' => some (.inl '\x07')
  | 'b' => some (.inl '\x08')
  | 't' => some (.inl '\t')
  | '\t' => some (.inl '\t')
  | 'n' => some (.inl '\n')
  | 'v' => some (.inl '\x0B')
  | 'f' => some (.inl '\x0C')
  | 'r' => some (.inl '\r')
  | 'e' => some (.inl '\x1B')
  | ' ' => some (.inl ' ')
  | '"' => some (.inl '"')
  | '/' => some (.inl '/')
  | '\\' => some (.inl '\\')
  | 'N' => some (.inl '\x85')
  | '_' => some (.inl '\xA0')
  | 'L' => some (.inl '\u2028')
  | 'P' => some (.inl '\u2029')
  | 'x' => some (.inr 2)
  | 'u' => some (.inr 4)
  | 'U' => some (.inr 8)
  | _ => none

def scanQuoted (single : Bool) : Scan Token := do
  let start ← mark
  let scanning := some ("while scanning a quoted scalar", start)
  let parsing := some ("while parsing a quoted scalar", start)
  let quote := if single then '\'' else '"'
  skip
  let mut text := ""
  let mut leadingBreak := ""
  let mut trailingBreaks := ""
  let mut whitespaces := ""
  for _ in [0:(← bound)] do
    if (← get).mark.column == 0 && (← atDocumentMarker) then
      fail "found unexpected document indicator" scanning
    if isEnd (← here) then fail "found unexpected end of stream" scanning
    let mut leadingBlanks := false
    for _ in [0:(← bound)] do
      let c ← here
      if isBlankOrEnd c then break
      let d ← peekAt 1
      if single && c = '\'' && d = '\'' then
        text := text.push '\''
        skip
        skip
      else if c = quote then break
      else if !single && c = '\\' && isBreak d then
        skip
        skipLine
        leadingBlanks := true
        break
      else if !single && c = '\\' then
        match escapeOf d with
        | none => fail "found unknown escape character" parsing
        | some (.inl e) =>
          text := text.push e
          skip
          skip
        | some (.inr width) =>
          skip
          skip
          let mut value := 0
          for k in [0:width] do
            let h ← peekAt k
            if !isHex h then fail "did not find expected hexdecimal number" parsing
            value := value * 16 + hexValue h
          if (0xD800 ≤ value && value ≤ 0xDFFF) || value > 0x10FFFF then
            fail "found invalid Unicode character escape code" parsing
          text := text.push (Char.ofNat value)
          for _ in [0:width] do
            skip
      else text ← read text
    if (← here) = quote then break
    for _ in [0:(← bound)] do
      let c ← here
      if !(isBlank c || isBreak c) then break
      if isBlank c then
        if !leadingBlanks then whitespaces ← read whitespaces
        else skip
      else if !leadingBlanks then
        whitespaces := ""
        leadingBreak ← readLine leadingBreak
        leadingBlanks := true
      else trailingBreaks ← readLine trailingBreaks
    if leadingBlanks then
      if leadingBreak.startsWith "\n" then
        if trailingBreaks.isEmpty then text := text.push ' '
        else
          text := text ++ trailingBreaks
          trailingBreaks := ""
        leadingBreak := ""
      else
        text := text ++ leadingBreak ++ trailingBreaks
        leadingBreak := ""
        trailingBreaks := ""
    else
      text := text ++ whitespaces
      whitespaces := ""
  skip
  pure ⟨.scalar text (if single then .singleQuoted else .doubleQuoted), start, ← mark⟩

/-! ## Plain scalars -/

def scanPlain : Scan Token := do
  let start ← mark
  let what := some ("while scanning a plain scalar", start)
  let indent := (← get).indent + 1
  let mut text := ""
  let mut leadingBreak := ""
  let mut trailingBreaks := ""
  let mut whitespaces := ""
  let mut leadingBlanks := false
  let mut stop := start
  for _ in [0:(← bound)] do
    if (← get).mark.column == 0 && (← atDocumentMarker) then break
    if (← here) = '#' then break
    for _ in [0:(← bound)] do
      let c ← here
      if isBlankOrEnd c then break
      let flow := (← get).flowLevel > 0
      let d ← peekAt 1
      if flow && c = ':' && ",?[]\x7b\x7d".contains d then fail "found unexpected ':'" what
      if (c = ':' && isBlankOrEnd d) || (flow && ",[]\x7b\x7d".contains c) then break
      if leadingBlanks || !whitespaces.isEmpty then
        if leadingBlanks then
          if leadingBreak.startsWith "\n" then
            if trailingBreaks.isEmpty then text := text.push ' '
            else
              text := text ++ trailingBreaks
              trailingBreaks := ""
            leadingBreak := ""
          else
            text := text ++ leadingBreak ++ trailingBreaks
            leadingBreak := ""
            trailingBreaks := ""
          leadingBlanks := false
        else
          text := text ++ whitespaces
          whitespaces := ""
      text ← read text
      stop ← mark
    let c ← here
    if !(isBlank c || isBreak c) then break
    for _ in [0:(← bound)] do
      let c ← here
      if !(isBlank c || isBreak c) then break
      if isBlank c then
        if leadingBlanks && ((← get).mark.column : Int) < indent && c = '\t' then
          fail "found a tab character that violates indentation" what
        else if !leadingBlanks then whitespaces ← read whitespaces
        else skip
      else if !leadingBlanks then
        whitespaces := ""
        leadingBreak ← readLine leadingBreak
        leadingBlanks := true
      else trailingBreaks ← readLine trailingBreaks
    if (← get).flowLevel == 0 && ((← get).mark.column : Int) < indent then break
  if leadingBlanks then modify fun s => { s with keyAllowed := true }
  pure ⟨.scalar text .plain, start, stop⟩

/-! ## The next token -/

def fetchStreamStart : Scan Unit := modify fun s =>
  { s with
    indent := -1
    keys := s.keys.push {}
    keyAllowed := true
    started := true
    queue := s.queue ++ [⟨.streamStart, s.mark, s.mark⟩] }

def fetchStreamEnd : Scan Unit := do
  modify fun s =>
    if s.mark.column != 0 then { s with mark := { s.mark with column := 0, line := s.mark.line + 1 } }
    else s
  unrollIndent (-1)
  removeKey
  modify fun s => { s with keyAllowed := false }
  let m ← mark
  enqueue ⟨.streamEnd, m, m⟩

/-- Whether a plain scalar may start here. -/
def startsPlain (flow : Bool) (c d : Char) : Bool :=
  !(isBlankOrEnd c || "-?:,[]\x7b\x7d#&*!|>'\"%@`".contains c) ||
    (c = '-' && !isBlank d) || (!flow && (c = '?' || c = ':') && !isBlankOrEnd d)

def fetchNext : Scan Unit := do
  if let some offset := (← get).forbidden then
    throw { problem := "control characters are not allowed", mark := {}, offset }
  if !(← get).started then
    fetchStreamStart
    return
  toNextToken
  staleKeys
  unrollIndent (← get).mark.column
  let s ← get
  let c ← here
  let d ← peekAt 1
  let atLineStart := s.mark.column == 0
  let flow := s.flowLevel > 0
  if isEnd c then fetchStreamEnd
  else if atLineStart && c = '%' then fetchDirective
  else if atLineStart && c = '-' && (← atDocumentMarker) then fetchDocumentMarker .documentStart
  else if atLineStart && c = '.' && (← atDocumentMarker) then fetchDocumentMarker .documentEnd
  else if c = '[' then fetchFlowStart .flowSequenceStart
  else if c = '\x7b' then fetchFlowStart .flowMappingStart
  else if c = ']' then fetchFlowEnd .flowSequenceEnd
  else if c = '\x7d' then fetchFlowEnd .flowMappingEnd
  else if c = ',' then fetchFlowEntry
  else if c = '-' && isBlankOrEnd d then fetchBlockEntry
  else if c = '?' && (flow || isBlankOrEnd d) then fetchKey
  else if c = ':' && (flow || isBlankOrEnd d) then fetchValue
  else if c = '*' then fetchToken (scanAnchor true)
  else if c = '&' then fetchToken (scanAnchor false)
  else if c = '!' then fetchToken scanTag
  else if c = '|' && !flow then
    removeKey
    modify fun s => { s with keyAllowed := true }
    enqueue (← scanBlockScalar true)
  else if c = '>' && !flow then
    removeKey
    modify fun s => { s with keyAllowed := true }
    enqueue (← scanBlockScalar false)
  else if c = '\'' then fetchToken (scanQuoted true)
  else if c = '"' then fetchToken (scanQuoted false)
  else if startsPlain flow c d then
    saveKey
    modify fun s => { s with keyAllowed := false }
    enqueue (← scanPlain)
  else fail "found character that cannot start any token" (some ("while scanning for the next token", s.mark))

/-- Whether more tokens must be read before the first queued one may leave: the queue is empty,
or a simple key could still be placed before that token. -/
def needMore : Scan Bool := do
  if (← get).queue.isEmpty then return true
  staleKeys
  let s ← get
  pure (s.keys.any fun k => k.possible && k.tokenNumber == s.taken)

def fetchMore : Scan Unit := do
  for _ in [0:2 * (← bound) + 8] do
    if !(← needMore) then break
    fetchNext
  modify fun s => { s with ready := true }

/-- The next token, read if need be. -/
def peekToken : Scan Token := do
  if !(← get).ready then fetchMore
  match (← get).queue with
  | t :: _ => pure t
  | [] =>
    let m ← mark
    pure ⟨.streamEnd, m, m⟩

/-- Hand the next token to the parser. -/
def skipToken : Scan Unit := modify fun s =>
  match s.queue with
  | t :: rest => { s with ready := false, taken := s.taken + 1, finished := t.isStreamEnd, queue := rest }
  | [] => s

end Scan

end Yaml

end Parley
