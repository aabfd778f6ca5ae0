import EndpointMonitor.Json.Record
import EndpointMonitor.Settings.Validation
import EndpointMonitor.Toml.Reader

/-!
# Reading settings from a document

Every section is a record of the document. A number must be a whole one that fits a word, and
what is left out has its default.
-/

namespace EndpointMonitor

namespace Decoding

variable (kind : DocumentKind)

/-- A metric of a resource type. -/
def metric (value : Json) : Option MetricSetting := do
  let f ← fieldsOf kind 8 value
  return {
    name := ← required f 0 "name" Json.string?
    location := ← defaulted f 1 "location" "" Json.string?
    reference := ← required f 2 "attribute" Json.string?
    interval := ← required f 3 "interval" Json.word?
    timeUnits := ← defaulted f 4 "time_units" .seconds (choice kind TimeUnit.ofName?)
    metricType := ← defaulted f 5 "metric_type" .gauge (choice kind MetricKind.ofName?)
    units := ← defaulted f 6 "units" "none" Json.string?
    enabled := ← defaulted f 7 "enabled" true Json.bool? }

/-- An availability of a resource type. -/
def avail (value : Json) : Option AvailSetting := do
  let f ← fieldsOf kind 7 value
  return {
    name := ← required f 0 "name" Json.string?
    location := ← defaulted f 1 "location" "" Json.string?
    reference := ← required f 2 "attribute" Json.string?
    interval := ← required f 3 "interval" Json.word?
    timeUnits := ← defaulted f 4 "time_units" .seconds (choice kind TimeUnit.ofName?)
    upRegex := ← defaulted f 5 "up_regex" none (nullable Json.string?)
    enabled := ← defaulted f 6 "enabled" true Json.bool? }

/-- A property of a resource. -/
def property (value : Json) : Option PropertySetting := do
  let f ← fieldsOf kind 3 value
  return {
    name := ← required f 0 "name" Json.string?
    location := ← defaulted f 1 "location" "" Json.string?
    reference := ← required f 2 "attribute" Json.string? }

/-- A resource type. -/
def resourceType (value : Json) : Option ResourceTypeSetting := do
  let f ← fieldsOf kind 8 value
  return {
    name := ← required f 0 "name" Json.string?
    location := ← required f 1 "location" Json.string?
    parents := ← defaulted f 2 "parents" [] (list Json.string?)
    nameTemplate := ← required f 3 "resource_name_template" Json.string?
    metrics := ← defaulted f 4 "metrics" [] (list (metric kind))
    avails := ← defaulted f 5 "avails" [] (list (avail kind))
    properties := ← defaulted f 6 "config_properties" [] (list (property kind))
    operations := ← defaulted f 7 "operations" [] (list Json.string?) }

/-- A type set. -/
def typeSet (value : Json) : Option TypeSetSetting := do
  let f ← fieldsOf kind 3 value
  return {
    name := ← required f 0 "name" Json.string?
    enabled := ← defaulted f 1 "enabled" true Json.bool?
    resourceTypes := ← defaulted f 2 "resource_types" [] (list (resourceType kind)) }

/-- A managed server. -/
def endpoint (value : Json) : Option RemoteEndpointSetting := do
  let f ← fieldsOf kind 8 value
  return {
    name := ← required f 0 "name" Json.string?
    enabled := ← defaulted f 1 "enabled" true Json.bool?
    url := ← required f 2 "url" Json.string?
    username := ← defaulted f 3 "username" none (nullable Json.string?)
    password := ← defaulted f 4 "password" none (nullable Json.string?)
    timeoutSecs := ← defaulted f 5 "timeout_secs" 10 Json.word?
    resourceTypeSets :=
      ← defaulted f 6 "resource_type_sets" none (nullable (list Json.string?))
    waitFor := ← defaulted f 7 "wait_for" [] (list Json.string?) }

/-- The section of a protocol. -/
def protocolSection (value : Json) : Option ProtocolSection := do
  let f ← fieldsOf kind 2 value
  return {
    typeSets := ← defaulted f 0 "type_sets" [] (list (typeSet kind))
    endpoints := ← defaulted f 1 "endpoints" [] (list (endpoint kind)) }

/-- The section that all endpoints share. -/
def agentSection (value : Json) : Option AgentSection := do
  let f ← fieldsOf kind 5 value
  let d : AgentSection := {}
  return {
    feedId := ← defaulted f 0 "feed_id" d.feedId Json.string?
    minCollectionIntervalSecs :=
      ← defaulted f 1 "min_collection_interval_secs" d.minCollectionIntervalSecs Json.word?
    discoveryPeriodSecs := ← defaulted f 2 "discovery_period_secs" d.discoveryPeriodSecs Json.word?
    pollIntervalMillis := ← defaulted f 3 "poll_interval_ms" d.pollIntervalMillis Json.word?
    shutdownTimeoutSecs :=
      ← defaulted f 4 "shutdown_timeout_secs" d.shutdownTimeoutSecs Json.word? }

/-- The section of the buffers. -/
def storageSection (value : Json) : Option StorageSection := do
  let f ← fieldsOf kind 6 value
  let d : StorageSection := {}
  return {
    metricBufferSize := ← defaulted f 0 "metric_buffer_size" d.metricBufferSize Json.word?
    metricBatchSize := ← defaulted f 1 "metric_batch_size" d.metricBatchSize Json.word?
    availBufferSize := ← defaulted f 2 "avail_buffer_size" d.availBufferSize Json.word?
    availBatchSize := ← defaulted f 3 "avail_batch_size" d.availBatchSize Json.word?
    flushIntervalMillis := ← defaulted f 4 "flush_interval_ms" d.flushIntervalMillis Json.word?
    storeWaitMillis := ← defaulted f 5 "store_wait_millis" d.storeWaitMillis Json.word? }

/-- The section of the reports. -/
def diagnosticsSection (value : Json) : Option DiagnosticsSection := do
  let f ← fieldsOf kind 2 value
  let d : DiagnosticsSection := {}
  return {
    enabled := ← defaulted f 0 "enabled" d.enabled Json.bool?
    reportIntervalSecs := ← defaulted f 1 "report_interval_secs" d.reportIntervalSecs Json.word? }

/-- The section of the host. -/
def platformSection (value : Json) : Option PlatformSection := do
  let f ← fieldsOf kind 3 value
  let d : PlatformSection := {}
  return {
    enabled := ← defaulted f 0 "enabled" d.enabled Json.bool?
    intervalSecs := ← defaulted f 1 "interval_secs" d.intervalSecs Json.word?
    machineId := ← defaulted f 2 "machine_id" d.machineId (nullable Json.string?) }

end Decoding

namespace Settings

/-- The settings of a document. -/
def ofDocument (kind : DocumentKind) (value : Json) : Option Settings := do
  let f ← Decoding.fieldsOf kind 6 value
  return {
    agent := ← Decoding.defaulted f 0 "agent" {} (Decoding.agentSection kind)
    storage := ← Decoding.defaulted f 1 "storage" {} (Decoding.storageSection kind)
    diagnostics := ← Decoding.defaulted f 2 "diagnostics" {} (Decoding.diagnosticsSection kind)
    dmr := ← Decoding.defaulted f 3 "dmr" {} (Decoding.protocolSection kind)
    jmx := ← Decoding.defaulted f 4 "jmx" {} (Decoding.protocolSection kind)
    platform := ← Decoding.defaulted f 5 "platform" {} (Decoding.platformSection kind) }

/-- Read and check the settings of a TOML text. -/
def ofToml (text : String) : Except ConfigError Settings :=
  match (Toml.parse? text).bind (ofDocument .toml) with
  | some settings => settings.validate
  | none => .error .malformed

/-- Read and check the settings of a file that holds the given bytes, or that cannot be read. -/
def ofFile (content : Option ByteArray) : Except ConfigError Settings :=
  match content.bind String.fromUTF8? with
  | some text => ofToml text
  | none => .error .unreadable

/-- The settings of a file where there is a usable one, and the defaults otherwise. -/
def ofFileOrDefault (content : Option ByteArray) : Settings :=
  match ofFile content with
  | .ok settings => settings
  | .error _ => {}

end Settings

end EndpointMonitor
