import EndpointMonitor.Location.Fault

/-!
# What can be wrong with a configuration

Every check has its own fault, and a configuration reports the first one that fails.
-/

namespace EndpointMonitor

/-- A value of a configuration that fails a check. -/
inductive SettingFault where
  | emptyFeed
  | zeroMinInterval
  | zeroPollInterval
  | zeroSize (name : String)
  | zeroReportInterval
  | zeroPlatformInterval
  | repeatedTypeSet (protocol name : String)
  | unnamedEndpoint (protocol url : String)
  | zeroTimeout (protocol endpoint : String)
  | repeatedEndpoint (name : String)
  | invalidUpPattern (pattern : String)
  | emptyAttribute (owner : String)
  | badLocation (owner : String) (error : AccessError)
  deriving DecidableEq, Inhabited

/-- The wording of a fault. -/
def SettingFault.message : SettingFault → String
  | .emptyFeed => "agent feed_id must not be empty"
  | .zeroMinInterval => "agent min_collection_interval_secs must be positive"
  | .zeroPollInterval => "agent poll_interval_ms must be positive"
  | .zeroSize name => "storage " ++ name ++ " must be positive"
  | .zeroReportInterval => "diagnostics report_interval_secs must be positive"
  | .zeroPlatformInterval => "platform interval_secs must be positive"
  | .repeatedTypeSet protocol name =>
    protocol ++ " type set [" ++ name ++ "] is defined more than once"
  | .unnamedEndpoint protocol url => protocol ++ " endpoint with url [" ++ url ++ "] has no name"
  | .zeroTimeout protocol endpoint =>
    protocol ++ " endpoint [" ++ endpoint ++ "] timeout_secs must be positive"
  | .repeatedEndpoint name => "endpoint name [" ++ name ++ "] is used more than once"
  | .invalidUpPattern pattern => "invalid up regex [" ++ pattern ++ "]"
  | .emptyAttribute owner => "[" ++ owner ++ "] has an empty attribute name"
  | .badLocation owner error => "[" ++ owner ++ "]: " ++ error.message

/-- Why there is no usable configuration. -/
inductive ConfigError where
  | unreadable
  | malformed
  | invalid (fault : SettingFault)
  | duplicateResourceType (name : String)
  deriving DecidableEq, Inhabited

/-- The wording of a configuration error. -/
def ConfigError.message : ConfigError → String
  | .unreadable => "Failed to read config file"
  | .malformed => "TOML parse error"
  | .invalid fault => "Invalid configuration value: " ++ fault.message
  | .duplicateResourceType name => "Resource type [" ++ name ++ "] is defined more than once"

end EndpointMonitor
