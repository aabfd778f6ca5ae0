import EndpointMonitor.CommandLine.Arguments
import EndpointMonitor.Settings.Decoding

/-!
# The settings an agent starts with

A configuration that is missing or cannot be used never keeps an agent from starting: it starts
with the defaults, and the log says so. Only a path that leads to something else than a file is
refused.
-/

namespace EndpointMonitor

/-- The settings of an agent that starts, and what is reported about them. -/
structure Startup where
  settings : Settings := {}
  log : List LogLine := []
  deriving Inhabited

namespace Startup

/-- The bytes that are found at a path. -/
def bytesOf : Arguments.PathContent → Option ByteArray
  | .file bytes => some bytes
  | _ => none

/-- What is reported about the configuration at a path. -/
def configLog (path : String) (content : Option ByteArray) : List LogLine :=
  ⟨.info, "Loading configuration from: " ++ path⟩ ::
    match Settings.ofFile content with
    | .ok _ => []
    | .error .unreadable =>
      [⟨.warn, "Configuration file '" ++ path ++ "' not found or unreadable, using defaults"⟩]
    | .error e =>
      [⟨.error, "Configuration error in '" ++ path ++ "': " ++ e.message⟩,
        ⟨.warn, "Using default configuration due to invalid config file"⟩]

/-- The start with what is found at the path that the arguments name. -/
def ofArguments (a : Arguments) (content : Arguments.PathContent) : Except String Startup :=
  match a.config with
  | none => .ok { log := [⟨.info, "Using default configuration"⟩] }
  | some path =>
    match Arguments.pathFault? path content with
    | some fault => .error ("Invalid arguments: " ++ fault)
    | none => .ok {
        settings := Settings.ofFileOrDefault (bytesOf content)
        log := (Arguments.pathWarning? path).toList ++ configLog path (bytesOf content) }

end Startup

end EndpointMonitor
