import EndpointMonitor.Agent.Run
import EndpointMonitor.CommandLine.Startup

/-!
# The command line of the agent

The agent monitors the endpoints of its configuration without a network of its own: every
request finds the endpoint out of reach. Each line of the input lets the agent go on to the
present moment, and the end of the input stops it.
-/

namespace EndpointMonitor.CommandLine

/-- How the program is called. -/
def usage : String :=
  "Monitoring agent - discovers managed resources and collects their metrics\n\n" ++
  "Usage: endpoint-monitor [OPTIONS]\n\nOptions:\n" ++
  "  -c, --config <FILE>  Configuration file path (TOML format)\n" ++
  "  -v, --verbose        Enable verbose logging output\n" ++
  "  -h, --help           Print help"

/-- Print the lines of a log; only the verbose agent prints those that report no problem. -/
def printLog (verbose : Bool) (lines : List LogLine) : IO Unit :=
  for line in lines do
    if verbose || line.isProblem then
      IO.eprintln (line.level.name ++ " " ++ line.message)

/-- What is found at a path. -/
def contentAt (path : String) : IO Arguments.PathContent := do
  try
    return .file (← IO.FS.readBinFile path)
  catch
    | .inappropriateType .. => return .directory
    | _ => return .nothing

/-- What is found at the path that the arguments name, if they name one. -/
def configContent (a : Arguments) : IO Arguments.PathContent :=
  match a.config with
  | some path => contentAt path
  | none => return .nothing

/-- Let the agent go on to the present moment at each line of the input, and print what it has
to say. -/
partial def follow (verbose : Bool) (storage : Storage) (start : Nat) (a : Agent Unit) :
    IO (Agent Unit) := do
  let line ← (← IO.getStdin).getLine
  let next := a.advanceTo storage ((← IO.monoMsNow) - start)
  printLog verbose (a.logSince next)
  if Agent.reportsBefore a.settings a.elapsed < Agent.reportsBefore a.settings next.elapsed then
    printLog verbose next.report
  if line.isEmpty then return next else follow verbose storage start next

/-- Monitor the endpoints of the settings until the input ends. -/
def monitor (verbose : Bool) (s : Settings) : IO Unit := do
  let wiring := Wiring.ofSettings s
  printLog verbose wiring.log
  let start ← IO.monoMsNow
  let storage := Storage.cycling []
  let a := Agent.start s wiring.result ⟨.closed, (), {}⟩ (UInt64.ofNat start)
  let a ← follow verbose storage start a
  let stopped := a.stop storage
  printLog verbose (a.logSince stopped ++ stopped.report)

end EndpointMonitor.CommandLine

open EndpointMonitor in
/-- Monitor the endpoints of a configuration. -/
def main (arguments : List String) : IO UInt32 := do
  match Arguments.read arguments with
  | .error .help =>
    IO.println CommandLine.usage
    return 0
  | .error fault =>
    IO.eprintln ("error: " ++ fault.message)
    return 2
  | .ok a =>
    match Startup.ofArguments a (← CommandLine.configContent a) with
    | .error message =>
      IO.eprintln message
      return 1
    | .ok startup =>
      CommandLine.printLog a.verbose startup.log
      CommandLine.monitor a.verbose startup.settings
      return 0
