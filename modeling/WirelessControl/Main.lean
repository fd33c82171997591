import WirelessControl.Daemon.Launch

/-!
# The command line

The daemon as a program: its arguments, the variables of its environment and the file that one of
them names make the configuration. When the start fails, the failure is told and the program
ends with a failure. There are no sockets of the system here, so that the engine itself is out of
reach and a start ends with that at the latest.
-/

namespace WirelessControl

/-- The name of the program. -/
def programName : String := "wifihald"

/-- Why the engine is out of reach. -/
def outOfReach : EngineSetup := { failure := some (.transport (.opening .notSupported)) }

/-- Splits a variable of the environment at its first equals sign. -/
def splitVariable (line : String) : Option (String × String) :=
  let cs := line.toList
  match cs.dropWhile (· ≠ '=') with
  | [] => none
  | _ :: content => some (String.ofList (cs.takeWhile (· ≠ '=')), String.ofList content)

/-- The variables of the environment, as the system lists them. -/
def readEnvironment : IO (List (String × String)) := do
  let listed ← try IO.FS.readFile "/proc/self/environ" catch _ => pure ""
  return (listed.splitOn "\x00").filterMap splitVariable

/-- What is found at a path. -/
def readContent (path : String) : IO FileContent := do
  try return .text (← IO.FS.readFile path)
  catch
    | .noFileOrDirectory .. => return .absent
    | _ => return .unreadable

/-- The sources of the configuration. -/
def readSources (arguments : List String) : IO ConfigSources := do
  let environment ← readEnvironment
  let named := (CommandLine.parse? arguments).bind (·.path)
  let paths := named.toList ++ (Config.environmentPath? environment).toList
  let found ← paths.mapM fun path => return (path, ← readContent path)
  return {
    files := fun p => (found.lookup p).getD .absent
    environment := environment
    arguments := arguments }

/-- The text of a failure of the program. -/
def failureLine (e : LaunchError) : String := s!"{programName}: {e.message}"

/-- Runs the daemon. -/
def runDaemon (arguments : List String) : IO UInt32 := do
  let loaded := Config.load (← readSources arguments)
  let around : Daemon.Surroundings := { waited := .ok .terminate, timeout := 10000 }
  let life := Daemon.run LogFilter.check loaded outOfReach around .nobody
  match life.result with
  | .ok () => return 0
  | .error e =>
    IO.eprintln (failureLine e)
    return 1

end WirelessControl

/-- Runs the daemon. -/
def main (arguments : List String) : IO UInt32 := WirelessControl.runDaemon arguments
