/-!
# Log lines

Everything the agent reports is a list of lines, each with a level.
-/

namespace EndpointMonitor

/-- The level of a log line. -/
inductive LogLevel where
  | debug
  | info
  | warn
  | error
  deriving DecidableEq, Inhabited

/-- The name of a level. -/
def LogLevel.name : LogLevel → String
  | .debug => "DEBUG"
  | .info => "INFO"
  | .warn => "WARN"
  | .error => "ERROR"

/-- A line of the log. -/
structure LogLine where
  level : LogLevel
  message : String
  deriving DecidableEq, Inhabited

/-- Whether a line reports a problem. -/
def LogLine.isProblem (l : LogLine) : Bool :=
  l.level == .warn || l.level == .error

end EndpointMonitor
