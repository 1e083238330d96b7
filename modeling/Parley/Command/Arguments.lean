import Parley.Command.Similarity

/-!
# The command line

The program takes two options, each with a value: `-c`/`--config` names the configuration file
and `-e`/`--env` the environment file. `-h`/`--help` and `-V`/`--version` print the help and the
version instead of running. Nothing else is accepted.

A value is given in the same word (`--config=a.yaml`, `-ca.yaml`, `-c=a.yaml`) or as the next
word, unless that word is itself an option. An option is taken into account only when the next
option starts or the words run out: only then is a missing value or a second use of the option
an error. Short options may be written together, `-hV`, and are read from the left. After `--`
every word is a value, and a value that no option takes is an error.

An unknown long option gets a suggestion: the most similar long option, by `suggest`. The usage
line of an error lists the options given so far, the suggested one included, when there are any.
A flag given a value, `--help=x`, is an error whose usage line names the flag and, when an option
has been taken before it, the group of the two options; an option whose value was the word just
read is not taken yet.
-/

namespace Parley

namespace Command

/-- The name and version the program reports, and the line that says what it is. -/
def programName : String := "colloquy-world"
def programVersion : String := "0.0.1"
def programAbout : String := "Colloquy world engine: participants, schedules and interaction sessions."

/-- An option: its short and long names, the name of its value when it takes one, its help
line and the default of its value. -/
structure OptionSpec where
  short : Char
  long : String
  valueName : Option String
  help : String
  defaultValue : Option String
  deriving DecidableEq, Repr

namespace OptionSpec

/-- Whether the option takes a value. -/
def takesValue (s : OptionSpec) : Bool := s.valueName.isSome

/-- The long name with the value's name, as errors and usage lines show the option. -/
def display (s : OptionSpec) : String :=
  "--" ++ s.long ++ (s.valueName.map (fun v => s!" <{v}>")).getD ""

/-- Both names with the value's name, as the help shows the option. -/
def names (s : OptionSpec) : String :=
  "-" ++ String.singleton s.short ++ ", " ++ s.display

end OptionSpec

def configOption : OptionSpec :=
  ⟨'c', "config", some "CONFIG_FILE", "Path to configuration file", some "world/config.yaml"⟩
def envOption : OptionSpec :=
  ⟨'e', "env", some "ENV_FILE", "Path to environment file", some "world/.env"⟩
def helpOption : OptionSpec := ⟨'h', "help", none, "Print help", none⟩
def versionOption : OptionSpec := ⟨'V', "version", none, "Print version", none⟩

/-- Every option, in the order the help lists them. -/
def options : List OptionSpec := [configOption, envOption, helpOption, versionOption]

/-- The help text, with `bin` as the program's name in the usage line. -/
def helpText (bin : String) : String :=
  let width := (options.map fun s => s.names.length).foldl max 0
  let line (s : OptionSpec) : String :=
    let names := s.names
    let dflt := (s.defaultValue.map fun d => s!" [default: {d}]").getD ""
    "  " ++ names ++ "".pushn ' ' (width - names.length) ++ "  " ++ s.help ++ dflt ++ "\n"
  programAbout ++ "\n\nUsage: " ++ bin ++ " [OPTIONS]\n\nOptions:\n" ++ String.join (options.map line)

/-- The usage line of a command line where no option is known to be given. -/
def plainUsage (bin : String) : String := bin ++ " [OPTIONS]"

/-- The usage line listing the options given, each once. -/
def usageWith (bin : String) (given : List OptionSpec) : String :=
  if given.isEmpty then plainUsage bin
  else bin ++ String.join ((given.eraseDups).map fun s => " " ++ s.display)

/-- The options the program declares for itself, the ones that take values, written as one
group: `<--config <CONFIG_FILE>|--env <ENV_FILE>>`. -/
def declaredGroup : String :=
  "<" ++ "|".intercalate ((options.filter (·.takesValue)).map (·.display)) ++ ">"

/-- The usage line of a flag given a value: the flag, then, once any option has been taken, the
group of declared options in place of the options taken, all of which belong to it. -/
def flagUsage (bin : String) (taken : List OptionSpec) (flag : OptionSpec) : String :=
  bin ++ " " ++ flag.display ++ (if taken.isEmpty then "" else " " ++ declaredGroup)

/-- Why a command line does not give arguments to run with; the help and the version count
as such, since the program prints them instead of running. -/
inductive ArgumentError where
  | help (bin : String)
  | version
  | unknown (word : String) (suggestion : Option String) (usage : String)
  | emptyValue (option : String)
  | repeated (option : String) (usage : String)
  | unneededValue (value option : String) (usage : String)
  deriving DecidableEq, Repr

namespace ArgumentError

/-- The name of the kind of error. -/
def kind : ArgumentError → String
  | .help _ => "DisplayHelp"
  | .version => "DisplayVersion"
  | .unknown .. => "UnknownArgument"
  | .emptyValue _ => "InvalidValue"
  | .repeated .. => "ArgumentConflict"
  | .unneededValue .. => "TooManyValues"

/-- The closing hint of an error. -/
def tryHelp : String := "\n\nFor more information, try '--help'.\n"

/-- The text printed for the error. -/
def message : ArgumentError → String
  | .help bin => helpText bin
  | .version => s!"{programName} {programVersion}\n"
  | .unknown word suggestion usage =>
    s!"error: unexpected argument '{word}' found" ++
      (suggestion.map fun s => s!"\n\n  tip: a similar argument exists: '{s}'").getD "" ++
      s!"\n\nUsage: {usage}" ++ tryHelp
  | .emptyValue option => s!"error: a value is required for '{option}' but none was supplied" ++ tryHelp
  | .repeated option usage =>
    s!"error: the argument '{option}' cannot be used multiple times\n\nUsage: {usage}" ++ tryHelp
  | .unneededValue value option usage =>
    s!"error: unexpected value '{value}' for '{option}' found; no more were expected\n\nUsage: {usage}" ++
      tryHelp

end ArgumentError

/-- What the command line asks for. -/
structure Arguments where
  configFile : String
  envFile : Option String
  deriving DecidableEq, Repr

/-- The arguments of a run that reads no command line. -/
def Arguments.standard : Arguments := ⟨"config.yaml", some ".env"⟩

/-- The options taken so far, with their values, and the option last met, whose value may
still be missing. -/
structure Matches where
  given : List (OptionSpec × String)
  pending : Option (OptionSpec × Option String)
  deriving Repr

namespace Matches

def empty : Matches := ⟨[], none⟩

/-- The options taken so far. -/
def options (m : Matches) : List OptionSpec := m.given.map (·.1)

/-- Whether an option has been taken. -/
def has (m : Matches) (s : OptionSpec) : Bool := m.given.any fun (t, _) => t.long == s.long

/-- The value taken for an option. -/
def valueOf (m : Matches) (s : OptionSpec) : Option String :=
  (m.given.find? fun (t, _) => t.long == s.long).map (·.2)

/-- Whether the option last met still waits for its value. -/
def awaiting (m : Matches) : Bool :=
  match m.pending with
  | some (_, none) => true
  | _ => false

/-- Take an option with its value: a missing value and a second use are errors. -/
def take (usage : String) (m : Matches) (s : OptionSpec) : Option String → Except ArgumentError Matches
  | none => .error (.emptyValue s.display)
  | some v => if m.has s then .error (.repeated s.display usage) else .ok { m with given := m.given ++ [(s, v)] }

/-- Take the option last met, if any. -/
def settle (usage : String) (m : Matches) : Except ArgumentError Matches :=
  match m.pending with
  | none => .ok m
  | some (s, v) => take usage { m with pending := none } s v

/-- Take the option last met the way an error does before it is reported: an option without a
value is dropped, and a second use drops the first. -/
def settleQuietly (m : Matches) : Matches :=
  let m' := { m with pending := none }
  match m.pending with
  | none => m
  | some (_, none) => m'
  | some (s, some v) =>
    if m'.has s then { m' with given := m'.given.filter fun (t, _) => t.long != s.long }
    else { m' with given := m'.given ++ [(s, v)] }

/-- Meet an option given with its value, or a flag: the option last met is taken first; the
help and the version end the reading. -/
def meet (bin : String) (m : Matches) (s : OptionSpec) (v : Option String) :
    Except ArgumentError Matches := do
  let m ← m.settle (plainUsage bin)
  if s.long == helpOption.long then throw (.help bin)
  if s.long == versionOption.long then throw .version
  m.take (plainUsage bin) s v

/-- Meet an option whose value is the next word. -/
def expect (bin : String) (m : Matches) (s : OptionSpec) : Except ArgumentError Matches := do
  let m ← m.settle (plainUsage bin)
  pure { m with pending := some (s, none) }

end Matches

/-- Read a word of short options from the left. -/
def readShort (bin : String) : List Char → Matches → Except ArgumentError Matches
  | [], m => .ok m
  | c :: more, m =>
    match options.find? (·.short == c) with
    | none =>
      .error (.unknown ("-" ++ String.singleton c) none (plainUsage bin))
    | some s =>
      if s.takesValue then
        match more with
        | [] => m.expect bin s
        | '=' :: v => m.meet bin s (some (String.ofList v))
        | v => m.meet bin s (some (String.ofList v))
      else do
        let m ← m.meet bin s none
        readShort bin more m

/-- Split a long option at its first `=` into the name and the value. -/
def splitLong (body : String) : String × Option String :=
  match body.splitOn "=" with
  | name :: value :: rest => (name, some ("=".intercalate (value :: rest)))
  | _ => (body, none)

/-- Read the words of a command line; `trailing` after `--`. -/
def readWords (bin : String) : List String → Matches → Bool → Except ArgumentError Matches
  | [], m, _ => m.settle (plainUsage bin)
  | word :: rest, m, trailing =>
    if trailing then .error (.unknown word none (plainUsage bin))
    else if word == "--" then readWords bin rest m true
    else if word.startsWith "--" then
      let (name, value) := splitLong (word.drop 2).toString
      match options.find? (·.long == name), value with
      | some s, some v =>
        if s.takesValue then do readWords bin rest (← m.meet bin s (some v)) false
        else .error (.unneededValue v s.display (flagUsage bin m.options s))
      | some s, none =>
        if s.takesValue then do readWords bin rest (← m.expect bin s) false
        else do readWords bin rest (← m.meet bin s none) false
      | none, _ =>
        let m := m.settleQuietly
        let suggestion := suggest name (options.map (·.long))
        let suggested := (suggestion.bind fun l => options.find? (·.long == l)).toList
        .error (.unknown ("--" ++ name) (suggestion.map ("--" ++ ·))
          (usageWith bin (m.options ++ suggested)))
    else if word.startsWith "-" && word.length > 1 then do
      readWords bin rest (← readShort bin (word.drop 1).toString.toList m) false
    else if m.awaiting then
      readWords bin rest { m with pending := m.pending.map fun (s, _) => (s, some word) } false
    else .error (.unknown word none (plainUsage bin))

/-- The program's name as the last component of the path it was started by, if that is a
name. -/
def binaryName (path : String) : Option String :=
  match ((path.splitOn "/").filter fun p => p != "" && p != ".").getLast? with
  | some ".." => none
  | last => last

/-- Read a command line whose first word is the path the program was started by. -/
def Arguments.parse (argv : List String) : Except ArgumentError Arguments := do
  let (bin, words) := match argv with
    | [] => (programName, [])
    | first :: rest => ((binaryName first).getD programName, rest)
  let m ← readWords bin words Matches.empty false
  let valueOf (s : OptionSpec) : Option String := m.valueOf s <|> s.defaultValue
  pure ⟨(valueOf configOption).getD "", valueOf envOption⟩

end Command

end Parley
