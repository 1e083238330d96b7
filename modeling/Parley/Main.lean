import Parley.Command.Arguments
import Parley.Config.Load
import Parley.Config.Dotenv
import Parley.Run

/-!
# The program

Reads the command line, the environment file and the configuration, then runs: the world is
updated once every `tick_millis` milliseconds until the conversation ends or the run gives up.
Progress is reported one line at a time on standard output; errors go to standard error.
-/

open Parley

namespace Parley.Program

/-- What opening and reading a path on disk gives. -/
def openPath (path : String) : IO Config.Opened := do
  try
    return .file (← IO.FS.readFile path)
  catch e =>
    match e with
    | .noFileOrDirectory .. => return .cannotOpen Config.noSuchFile
    | .permissionDenied .. => return .cannotOpen "Permission denied (os error 13)"
    | e => return .cannotRead (toString e)

/-- How entities and dialogs are named in reports. -/
def naming : Naming := ⟨fun e => s!"{e.index}", fun d => s!"{d.val}"⟩

/-- Update the run once a tick until it stops, for at most `fuel` ticks. -/
def tickUntilStopped (millis maxTicks : Nat) : Nat → Run → IO Run
  | 0, r => pure r
  | fuel + 1, r => do
    IO.sleep (UInt32.ofNat millis)
    match Run.step maxTicks r with
    | (some (.ended ticks outcome), r) =>
      IO.println s!"Conversation ended after {ticks} ticks: {outcome.name}"
      pure r
    | (some (.gaveUp ticks), r) =>
      IO.println s!"Giving up after {ticks} ticks"
      pure r
    | (none, r) => tickUntilStopped millis maxTicks fuel r

/-- Run a loaded configuration. -/
def runWith (config : Configuration) : IO UInt32 := do
  IO.println "Starting Colloquy World..."
  match Run.begin config with
  | .tooFewMembers =>
    IO.eprintln "Error: The cast needs at least two characters"
    return 1
  | .outOfReach _ =>
    IO.println s!"Spawned {config.cast.length} characters"
    IO.println "Nobody is within reach of the first character, nothing to do"
    return 0
  | .refused e _ =>
    IO.println s!"Spawned {config.cast.length} characters"
    IO.eprintln s!"Error: {e.message naming}"
    return 1
  | .started r =>
    IO.println s!"Spawned {config.cast.length} characters"
    let r ← tickUntilStopped config.runtime.tickMillis config.runtime.maxTicks
      (config.runtime.maxTicks + 1) r
    match r.finish with
    | .error e =>
      IO.eprintln s!"Error: {e.message naming}"
      return 1
    | .ok _ =>
      IO.println "Colloquy World stopped"
      return 0

end Parley.Program

open Parley.Program in
def main (args : List String) : IO UInt32 := do
  match Command.Arguments.parse (Command.programName :: args) with
  | .error e =>
    match e with
    | .help _ | .version =>
      IO.print e.message
      return 0
    | _ =>
      IO.eprint e.message
      return 2
  | .ok arguments =>
    let fileVars ← match ← openPath (arguments.envFile.getD ".env") with
      | .file text => pure (Config.readDotenv text)
      | _ => pure []
    let opened ← openPath arguments.configFile
    let text := match opened with
      | .file t => t
      | _ => ""
    let process ← (Config.referencedNames text).mapM fun n => do return (n, ← IO.getEnv n)
    let env := Config.Environment.under (fun n => (process.lookup n).join) fileVars
    match Configuration.load (fun _ => opened) env arguments.configFile with
    | .error e =>
      IO.eprintln s!"Error: {e.message}"
      return 1
    | .ok config => runWith config
