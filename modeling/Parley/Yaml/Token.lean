/-!
# Tokens of YAML text

A YAML document is first cut into tokens. Every token carries the marks where it starts and
stops; a mark counts characters from the start of the text, lines from zero, and columns from
zero within the line. A line break is a carriage return, a line feed, the pair of both, a next
line character or a line or paragraph separator.

A text that cannot be read fails with a `Problem`: what went wrong, where, and optionally what
was being read and where that began. Its message names positions from one, and leaves out a
position at the very start of the text.
-/

namespace Parley

namespace Yaml

/-- A position in the text: its byte offset, and its line and column, which count characters. -/
structure Mark where
  index : Nat := 0
  line : Nat := 0
  column : Nat := 0
  deriving Inhabited, DecidableEq, Repr

/-- The position as written in messages, counting from one. -/
def Mark.text (m : Mark) : String := s!"line {m.line + 1} column {m.column + 1}"

/-- Whether the mark is the first character of the text. -/
def Mark.isStart (m : Mark) : Bool := m.line == 0 && m.column == 0

/-- Why a text is not well-formed YAML. -/
structure Problem where
  problem : String
  mark : Mark
  /-- The byte offset of a character that may not appear at all. -/
  offset : Nat := 0
  /-- What was being read, and where it began. -/
  context : Option (String × Mark) := none
  deriving Inhabited, Repr

/-- The text of a problem. -/
def Problem.message (p : Problem) : String :=
  let head :=
    if !p.mark.isStart then s!"{p.problem} at {p.mark.text}"
    else if p.offset != 0 then s!"{p.problem} at position {p.offset}"
    else p.problem
  match p.context with
  | none => head
  | some (what, m) =>
    if !m.isStart && (m.line != p.mark.line || m.column != p.mark.column) then
      s!"{head}, {what} at {m.text}"
    else s!"{head}, {what}"

/-- How a scalar is written. -/
inductive Style where
  | plain
  | singleQuoted
  | doubleQuoted
  | literal
  | folded
  deriving Inhabited, DecidableEq, Repr

/-- The kinds of tokens. -/
inductive TokenKind where
  | streamStart
  | streamEnd
  | versionDirective (major minor : Nat)
  | tagDirective (handle pre : String)
  | documentStart
  | documentEnd
  | blockSequenceStart
  | blockMappingStart
  | blockEnd
  | flowSequenceStart
  | flowSequenceEnd
  | flowMappingStart
  | flowMappingEnd
  | blockEntry
  | flowEntry
  | key
  | value
  | alias (name : String)
  | anchor (name : String)
  /-- A tag, kept as its bytes, one character for each: an escape may spell bytes that are no
  character, such as `%C0%80`, or the byte zero, `%00`. -/
  | tag (handle suffix : String)
  | scalar (text : String) (style : Style)
  deriving Inhabited, Repr

/-- The bytes of a tag part up to its first zero byte. A tag is held as text ended by a zero
byte, so what an escaped zero byte leaves after it is lost wherever the tag is read. -/
def beforeZero (s : String) : String := String.ofList (s.toList.takeWhile (· ≠ Char.ofNat 0))

/-- A token with the marks where it starts and stops. -/
structure Token where
  kind : TokenKind
  start : Mark
  stop : Mark
  deriving Inhabited, Repr

namespace Token

def isStreamEnd (t : Token) : Bool := match t.kind with | .streamEnd => true | _ => false
def isKey (t : Token) : Bool := match t.kind with | .key => true | _ => false
def isValue (t : Token) : Bool := match t.kind with | .value => true | _ => false
def isBlockEntry (t : Token) : Bool := match t.kind with | .blockEntry => true | _ => false
def isBlockEnd (t : Token) : Bool := match t.kind with | .blockEnd => true | _ => false
def isFlowEntry (t : Token) : Bool := match t.kind with | .flowEntry => true | _ => false
def isFlowSequenceEnd (t : Token) : Bool := match t.kind with | .flowSequenceEnd => true | _ => false
def isFlowMappingEnd (t : Token) : Bool := match t.kind with | .flowMappingEnd => true | _ => false
def isDocumentStart (t : Token) : Bool := match t.kind with | .documentStart => true | _ => false
def isDocumentEnd (t : Token) : Bool := match t.kind with | .documentEnd => true | _ => false

/-- Whether the token is a directive. -/
def isDirective (t : Token) : Bool :=
  match t.kind with
  | .versionDirective .. | .tagDirective .. => true
  | _ => false

end Token

/-! ## Classes of characters

The end of the text reads as the character zero, which may not appear inside the text. -/

def isBlank (c : Char) : Bool := c = ' ' || c = '\t'

def isBreak (c : Char) : Bool :=
  c = '\r' || c = '\n' || c = '\x85' || c = '\u2028' || c = '\u2029'

def isEnd (c : Char) : Bool := c.toNat = 0

def isBreakOrEnd (c : Char) : Bool := isBreak c || isEnd c

def isBlankOrEnd (c : Char) : Bool := isBlank c || isBreakOrEnd c

/-- Letters, digits, the underscore and the hyphen: the characters of names. -/
def isWord (c : Char) : Bool := c.isAlphanum || c = '_' || c = '-'

def isHex (c : Char) : Bool := c.isDigit || ('a' ≤ c && c ≤ 'f') || ('A' ≤ c && c ≤ 'F')

/-- The value of a hexadecimal digit. -/
def hexValue (c : Char) : Nat :=
  if c.isDigit then c.toNat - '0'.toNat
  else if 'a' ≤ c && c ≤ 'f' then c.toNat - 'a'.toNat + 10
  else c.toNat - 'A'.toNat + 10

/-- Whether a character may appear in YAML text at all. -/
def isPermitted (c : Char) : Bool :=
  let v := c.toNat
  v == 0x09 || v == 0x0A || v == 0x0D || (0x20 ≤ v && v ≤ 0x7E) || v == 0x85 ||
    (0xA0 ≤ v && v ≤ 0xD7FF) || (0xE000 ≤ v && v ≤ 0xFFFD) || (0x10000 ≤ v && v ≤ 0x10FFFF)

end Yaml

end Parley
