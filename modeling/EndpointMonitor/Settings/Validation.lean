import EndpointMonitor.Settings.Fault
import EndpointMonitor.Settings.Schema
import EndpointMonitor.Text.Blank

/-!
# Checking settings

The checks run in a fixed order, and the first fault is the answer.
-/

namespace EndpointMonitor

/-- The first text that equals an earlier one. -/
def firstRepeated? : List String → List String → Option String
  | _, [] => none
  | seen, s :: rest => if seen.contains s then some s else firstRepeated? (s :: seen) rest

/-- The first fault of the endpoints of a protocol. -/
def endpointFault? (protocol : String) (e : RemoteEndpointSetting) : Option SettingFault :=
  if Text.isBlankText e.name then some (.unnamedEndpoint protocol e.url)
  else if e.timeoutSecs = 0 then some (.zeroTimeout protocol e.name)
  else none

/-- The first fault of the section of a protocol. -/
def ProtocolSection.fault? (protocol : String) (s : ProtocolSection) : Option SettingFault :=
  ((firstRepeated? [] (s.typeSets.map (·.name))).map fun name => .repeatedTypeSet protocol name)
    <|> s.endpoints.findSome? (endpointFault? protocol)

namespace Settings

/-- The fault of a buffer or batch size. -/
def sizeFault? (name : String) (size : UInt64) : Option SettingFault :=
  if size = 0 then some (.zeroSize name) else none

/-- The first fault of the settings. -/
def fault? (s : Settings) : Option SettingFault :=
  (if Text.isBlankText s.agent.feedId then some .emptyFeed else none)
    <|> (if s.agent.minCollectionIntervalSecs = 0 then some .zeroMinInterval else none)
    <|> (if s.agent.pollIntervalMillis = 0 then some .zeroPollInterval else none)
    <|> sizeFault? "metric_buffer_size" s.storage.metricBufferSize
    <|> sizeFault? "metric_batch_size" s.storage.metricBatchSize
    <|> sizeFault? "avail_buffer_size" s.storage.availBufferSize
    <|> sizeFault? "avail_batch_size" s.storage.availBatchSize
    <|> (if s.diagnostics.enabled && s.diagnostics.reportIntervalSecs = 0
      then some .zeroReportInterval else none)
    <|> (if s.platform.enabled && s.platform.intervalSecs = 0
      then some .zeroPlatformInterval else none)
    <|> s.dmr.fault? "dmr"
    <|> s.jmx.fault? "jmx"
    <|> (firstRepeated? [] ((s.dmr.endpoints ++ s.jmx.endpoints).map (·.name))).map
      .repeatedEndpoint

/-- Accept settings without a fault. -/
def validate (s : Settings) : Except ConfigError Settings :=
  match s.fault? with
  | some fault => .error (.invalid fault)
  | none => .ok s

end Settings

end EndpointMonitor
