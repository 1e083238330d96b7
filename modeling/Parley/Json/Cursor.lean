import Parley.Json.Value

/-!
# Reading position and reading faults

A `Cursor` is the text still to be read together with the position reached: the line, counted
from `1`, and the column, the number of bytes read since the last line break. A fault is
reported at the position after the last character read. The text is read a byte at a time, so a
fault found by looking one character ahead, or on a character just read that does not fit, is
reported one byte into that character.
-/

namespace Parley

namespace Json

/-- Why a text is not the JSON that was expected. -/
inductive Fault where
  | eofWhileParsingList
  | eofWhileParsingObject
  | eofWhileParsingString
  | eofWhileParsingValue
  | expectedColon
  | expectedListCommaOrEnd
  | expectedObjectCommaOrEnd
  | expectedSomeIdent
  | expectedSomeValue
  | invalidEscape
  | invalidNumber
  | numberOutOfRange
  | controlCharacterWhileParsingString
  | keyMustBeAString
  | loneLeadingSurrogateInHexEscape
  | trailingComma
  | trailingCharacters
  | unexpectedEndOfHexEscape
  | recursionLimitExceeded
  /-- A fault found while turning a value read into a value of some type. -/
  | data (message : String)
  deriving DecidableEq, Repr

/-- The text of a fault. -/
def Fault.message : Fault → String
  | .eofWhileParsingList => "EOF while parsing a list"
  | .eofWhileParsingObject => "EOF while parsing an object"
  | .eofWhileParsingString => "EOF while parsing a string"
  | .eofWhileParsingValue => "EOF while parsing a value"
  | .expectedColon => "expected `:`"
  | .expectedListCommaOrEnd => "expected `,` or `]`"
  | .expectedObjectCommaOrEnd => "expected `,` or `\x7d`"
  | .expectedSomeIdent => "expected ident"
  | .expectedSomeValue => "expected value"
  | .invalidEscape => "invalid escape"
  | .invalidNumber => "invalid number"
  | .numberOutOfRange => "number out of range"
  | .controlCharacterWhileParsingString =>
    "control character (\\u0000-\\u001F) found while parsing a string"
  | .keyMustBeAString => "key must be a string"
  | .loneLeadingSurrogateInHexEscape => "lone leading surrogate in hex escape"
  | .trailingComma => "trailing comma"
  | .trailingCharacters => "trailing characters"
  | .unexpectedEndOfHexEscape => "unexpected end of hex escape"
  | .recursionLimitExceeded => "recursion limit exceeded"
  | .data message => message

/-- A fault and where it was found; line `0` means the place is not known. -/
structure ReadError where
  fault : Fault
  line : Nat
  column : Nat
  deriving DecidableEq, Repr

/-- The text of a reading error, with its place when known. -/
def ReadError.message (e : ReadError) : String :=
  if e.line = 0 then e.fault.message
  else s!"{e.fault.message} at line {e.line} column {e.column}"

/-- The nesting of arrays and objects allowed: the outermost counts as one, and the
128th level is refused. -/
def nestingLimit : Nat := 128

/-- The text still to be read and the position reached. -/
structure Cursor where
  rest : List Char
  line : Nat
  column : Nat
  /-- How many more levels of nesting may be opened, plus one. -/
  depth : Nat
  deriving Repr

namespace Cursor

/-- A cursor at the start of a text. -/
def start (text : String) : Cursor := ⟨text.toList, 1, 0, nestingLimit⟩

/-- The position after the character `c`, read at `(line, column)`. -/
def step (line column : Nat) (c : Char) : Nat × Nat :=
  if c = '\n' then (line + 1, 0) else (line, column + c.utf8Size)

/-- Read one character. -/
def advance (c : Cursor) : Cursor :=
  match c.rest with
  | [] => c
  | ch :: rest =>
    let (line, column) := step c.line c.column ch
    { c with rest := rest, line := line, column := column }

/-- The position one byte further: after the next character if it is a line break, else one
column on, which may fall inside a character of several bytes. -/
def peekPosition (c : Cursor) : Nat × Nat :=
  match c.rest with
  | [] => (c.line, c.column)
  | ch :: _ => if ch = '\n' then (c.line + 1, 0) else (c.line, c.column + 1)

/-- Skip blanks: spaces, tabs, carriage returns and line feeds. -/
def skipBlank (c : Cursor) : Cursor :=
  go c.rest c.line c.column
where
  go : List Char → Nat → Nat → Cursor
    | ch :: rest, line, column =>
      if ch = ' ' ∨ ch = '\t' ∨ ch = '\r' ∨ ch = '\n' then
        let (line, column) := step line column ch
        go rest line column
      else { c with rest := ch :: rest, line := line, column := column }
    | [], line, column => { c with rest := [], line := line, column := column }

/-- The cursor after everything. -/
def toEnd (c : Cursor) : Cursor :=
  let (line, column) := c.rest.foldl (fun (l, col) ch => step l col ch) (c.line, c.column)
  { c with rest := [], line := line, column := column }

/-- The position after `n` more bytes, or after the whole text if it is shorter. -/
def positionAfterBytes (c : Cursor) (n : Nat) : Nat × Nat :=
  go c.rest n c.line c.column
where
  go : List Char → Nat → Nat → Nat → Nat × Nat
    | [], _, line, column => (line, column)
    | _, 0, line, column => (line, column)
    | ch :: rest, n + 1, line, column =>
      if ch.utf8Size ≤ n + 1 then
        let (line, column) := step line column ch
        go rest (n + 1 - ch.utf8Size) line column
      else (line, column + (n + 1))

end Cursor

/-- A reading step: it consumes text from the cursor and gives a value or an error. -/
abbrev Reader := StateT Cursor (Except ReadError)

namespace Reader

/-- The next character, not read. -/
def peek? : Reader (Option Char) := do
  return (← get).rest.head?

/-- Read one character. -/
def eat : Reader Unit := modify Cursor.advance

/-- Read and give the next character. -/
def next? : Reader (Option Char) := do
  let c ← peek?
  eat
  return c

/-- Skip blanks and give the next character, not read. -/
def peekPastBlank : Reader (Option Char) := do
  modify Cursor.skipBlank
  peek?

/-- Fail at the position after the last character read. -/
def fail {α : Type} (f : Fault) : Reader α := do
  let c ← get
  throw ⟨f, c.line, c.column⟩

/-- Fail on the character `c` just read, at the position after its first byte: the text is read
a byte at a time, and a character that does not fit is refused at its first byte. -/
def refuse {α : Type} (c : Char) (f : Fault) : Reader α := do
  let cur ← get
  if c.utf8Size ≤ 1 then throw ⟨f, cur.line, cur.column⟩
  else throw ⟨f, cur.line, cur.column + 1 - c.utf8Size⟩

/-- Fail at the position one byte after the last character read. -/
def failAhead {α : Type} (f : Fault) : Reader α := do
  let (line, column) := (← get).peekPosition
  throw ⟨f, line, column⟩

/-- Give an error without a place the position after the last character read. -/
def locate (e : ReadError) : Reader ReadError := do
  if e.line = 0 then
    let c ← get
    return { e with line := c.line, column := c.column }
  else return e

/-- Enter one level of nesting, failing at the limit. -/
def enter : Reader Unit := do
  let c ← get
  if c.depth ≤ 1 then failAhead .recursionLimitExceeded
  else set { c with depth := c.depth - 1 }

/-- Leave one level of nesting. -/
def leave : Reader Unit := modify fun c => { c with depth := c.depth + 1 }

end Reader

end Json

end Parley
