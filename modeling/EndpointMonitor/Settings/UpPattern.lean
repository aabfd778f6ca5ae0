import EndpointMonitor.Pattern.Regex
import EndpointMonitor.Settings.Fault

/-!
# Up patterns

A text counts as UP if a pattern matches all of it. The pattern of a configuration is put
between anchors and then compiled.
-/

namespace EndpointMonitor

/-- A compiled pattern for values that count as UP. -/
structure UpPattern where
  regex : Pattern.Regex

namespace UpPattern

/-- A pattern between the anchors of a text. -/
def anchored (pattern : String) : String :=
  "^(?:" ++ pattern ++ ")$"

/-- Compile the pattern of a configuration. -/
def compile (pattern : String) : Except ConfigError UpPattern :=
  match Pattern.Regex.compile (anchored pattern) with
  | some regex => .ok ⟨regex⟩
  | none => .error (.invalid (.invalidUpPattern pattern))

/-- The compiled text of a pattern. -/
def text (p : UpPattern) : String :=
  p.regex.source

/-- Whether a text counts as UP. -/
def isMatch (p : UpPattern) (text : String) : Bool :=
  p.regex.isMatch text

/-- The pattern in force where a configuration has none. -/
def defaultSource : String :=
  "^(?i)(?:UP|OK|TRUE|RUNNING)$"

/-- Whether a text counts as UP without a configured pattern. -/
def isDefaultMatch (text : String) : Bool :=
  match Pattern.Regex.compile defaultSource with
  | some regex => regex.isMatch text
  | none => false

end UpPattern

end EndpointMonitor
