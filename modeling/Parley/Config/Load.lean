import Parley.Config.Yaml
import Parley.Config.Files

/-!
# Loading the configuration file

Loading a configuration opens a file in a file system, reads it whole and reads the text as
YAML. A path with a zero character is refused before the file system is asked. A failure to
read counts as a failure to parse, since the text is read as it is parsed.
-/

namespace Parley

namespace Config

/-- Why a configuration could not be loaded. -/
inductive LoadError where
  | cannotOpen (path : String) (reason : String)
  | cannotParse (reason : String)
  deriving DecidableEq, Repr

/-- The kind of a load error. -/
def LoadError.kind : LoadError → String
  | .cannotOpen .. => "Open"
  | .cannotParse _ => "Parse"

/-- The text of a load error. -/
def LoadError.message : LoadError → String
  | .cannotOpen path reason => s!"Failed to open config file {path}: {reason}"
  | .cannotParse reason => s!"Failed to parse config file: {reason}"

end Config

open Config

/-- Load the configuration at `path` from `files`, with `env` for the environment references. -/
def Configuration.load (files : Files) (env : Environment) (path : String) :
    Except LoadError Configuration :=
  if path.contains (Char.ofNat 0) then .error (.cannotOpen path zeroInPath)
  else
    match files path with
    | .cannotOpen reason => .error (.cannotOpen path reason)
    | .cannotRead reason => .error (.cannotParse reason)
    | .file text => (Configuration.ofYaml env text).mapError .cannotParse

end Parley
