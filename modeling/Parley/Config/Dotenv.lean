import Parley.Config.Environment

/-!
# Environment files

An environment file sets variables, one `NAME=value` a line. Blank lines and lines starting with
`#` are skipped, and a leading `export ` is allowed. A value in single quotes is taken as it is;
one in double quotes has its `\n`, `\"` and `\\` escapes read; any other value is trimmed and
ends before ` #`. A line without `=` sets nothing.

The file's variables only fill in for those the process does not have: `Environment.under`
looks a name up in the process first.
-/

namespace Parley

namespace Config

/-- Read the escapes of a double quoted value, up to its closing quote. -/
def unescapeQuoted : List Char → String → String
  | [], acc => acc
  | '"' :: _, acc => acc
  | '\\' :: 'n' :: rest, acc => unescapeQuoted rest (acc.push '\n')
  | '\\' :: c :: rest, acc => unescapeQuoted rest (acc.push c)
  | c :: rest, acc => unescapeQuoted rest (acc.push c)

/-- The value written after `=`. -/
def dotenvValue (raw : String) : String :=
  match (raw.trimAscii.toString).toList with
  | '\'' :: rest => String.ofList (rest.takeWhile (· != '\''))
  | '"' :: rest => unescapeQuoted rest ""
  | cs =>
    match findSub [' ', '#'] cs 0 with
    | some k => (String.ofList (cs.take k)).trimAscii.toString
    | none => String.ofList cs

/-- The variable a line sets, if any. -/
def dotenvLine (line : String) : Option (String × String) :=
  let line := line.trimAscii.toString
  if line.isEmpty || line.startsWith "#" then none
  else
    let line := if line.startsWith "export " then (line.drop 7).toString else line
    match line.splitOn "=" with
    | name :: value :: rest =>
      let name := name.trimAscii.toString
      if name.isEmpty then none else some (name, dotenvValue ("=".intercalate (value :: rest)))
    | _ => none

/-- The variables an environment file sets, in order. -/
def readDotenv (text : String) : List (String × String) :=
  (text.splitOn "\n").filterMap dotenvLine

/-- The environment of `process`, with the variables of a file filling in for missing ones. -/
def Environment.under (process : Environment) (file : List (String × String)) : Environment :=
  fun name => (process name).orElse fun _ => file.lookup name

end Config

end Parley
