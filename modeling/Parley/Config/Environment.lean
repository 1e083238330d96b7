import Parley.Text.Numeral
import Parley.Text.Alphanumeric

/-!
# Environment references in configuration values

A configuration value given as text may refer to environment variables, the way a shell does:
`$NAME` and `${NAME}` stand for the value of `NAME`, and `${NAME:-fallback}` for the value, or
the fallback text when `NAME` is unset. `$$` is a single `$`, a `$` before anything else stays as
it is, and `${` without a closing brace is kept as text. A reference to an unset variable
without a fallback is an error.

In the braced form, the name ends at the first `:-`, unless that comes right after the brace,
and the whole reference ends at the first closing brace; the fallback is taken as it is, not
expanded again. In the bare form, the name is the longest run of letters, digits and
underscores.
-/

namespace Parley

namespace Config

/-- The values of environment variables; `none` for an unset variable. -/
abbrev Environment := String → Option String

/-- The environment without variables. -/
def Environment.empty : Environment := fun _ => none

/-- Whether a character may appear in a bare variable name: letters and digits of any script
(see `Text.isAlphanumeric`), and the underscore. -/
def isNameChar (c : Char) : Bool := Text.isAlphanumeric c || c = '_'

/-- The message of a reference to an unset variable. -/
def unsetMessage (name : String) : String :=
  s!"error looking key '{name}' up: environment variable not found"

/-- The first place where `pat` starts in `cs`. -/
def findSub (pat : List Char) : List Char → Nat → Option Nat
  | [], _ => none
  | cs@(_ :: rest), i => if pat.isPrefixOf cs then some i else findSub pat rest (i + 1)

/-- The value a reference gives: the variable's value, or the fallback when it is unset. -/
def lookupOr (env : Environment) (name : String) (fallback : Option String) : Except String String :=
  match env name, fallback with
  | some v, _ => .ok v
  | none, some d => .ok d
  | none, none => .error (unsetMessage name)

/-- Expand the references in `cs` after the text `acc`. Every round consumes at least one
character. -/
def expandFrom (env : Environment) : Nat → List Char → String → Except String String
  | 0, cs, acc => .ok (acc ++ String.ofList cs)
  | _ + 1, [], acc => .ok acc
  | fuel + 1, '$' :: rest, acc =>
    match rest with
    | [] => .ok (acc.push '$')
    | '\x7b' :: body =>
      match body.findIdx? (· = '\x7d') with
      | none => expandFrom env fuel body (acc ++ "$\x7b")
      | some close =>
        let inside := body.take close
        let after := body.drop (close + 1)
        let (name, fallback) := match findSub [':', '-'] inside 0 with
          | some k => if k == 0 then (inside, none) else (inside.take k, some (inside.drop (k + 2)))
          | none => (inside, none)
        match lookupOr env (String.ofList name) (fallback.map String.ofList) with
        | .ok v => expandFrom env fuel after (acc ++ v)
        | .error e => .error e
    | c :: more =>
      if isNameChar c then
        let name := rest.takeWhile isNameChar
        match lookupOr env (String.ofList name) none with
        | .ok v => expandFrom env fuel (rest.dropWhile isNameChar) (acc ++ v)
        | .error e => .error e
      else if c = '$' then expandFrom env fuel more (acc.push '$')
      else expandFrom env fuel rest (acc.push '$')
  | fuel + 1, c :: rest, acc => expandFrom env fuel rest (acc.push c)

/-- Expand the environment references of a text. -/
def expand (env : Environment) (text : String) : Except String String :=
  expandFrom env (text.length + 1) text.toList ""

/-- The names of the variables a text refers to, in order, each once. -/
def referencedNames (text : String) : List String :=
  let rec go : List Char → List String → List String
    | [], acc => acc
    | '$' :: '\x7b' :: rest, acc =>
      let inside := rest.takeWhile (· != '\x7d')
      let name := match findSub [':', '-'] inside 0 with
        | some k => if k == 0 then inside else inside.take k
        | none => inside
      go rest (acc ++ [String.ofList name])
    | '$' :: rest, acc => go rest (acc ++ [String.ofList (rest.takeWhile isNameChar)])
    | _ :: rest, acc => go rest acc
  ((go text.toList []).filter (!·.isEmpty)).eraseDups

/-- A count of `bits` bits from text, after expanding its references. -/
def expandCount (env : Environment) (bits : Nat) (text : String) : Except String Nat := do
  let plain ← expand env text
  match Text.parseInteger plain 10 0 (Nat.pow 2 bits - 1) with
  | .ok n => pure n.toNat
  | .error e => throw e.message

end Config

end Parley
