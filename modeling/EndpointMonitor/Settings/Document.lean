import EndpointMonitor.Json.Basic
import EndpointMonitor.Settings.Schema

/-!
# Settings as a document

The document of some settings spells out every default, so reading it yields the same settings
whatever the defaults are.
-/

namespace EndpointMonitor

/-- The document of a metric. -/
def MetricSetting.toJson (m : MetricSetting) : Json :=
  .mkObj [("name", .str m.name), ("location", .str m.location), ("attribute", .str m.reference),
    ("interval", .word m.interval), ("time_units", .str m.timeUnits.name),
    ("metric_type", .str m.metricType.name), ("units", .str m.units), ("enabled", .bool m.enabled)]

/-- The document of an availability. -/
def AvailSetting.toJson (a : AvailSetting) : Json :=
  .mkObj [("name", .str a.name), ("location", .str a.location), ("attribute", .str a.reference),
    ("interval", .word a.interval), ("time_units", .str a.timeUnits.name),
    ("up_regex", .optStr a.upRegex), ("enabled", .bool a.enabled)]

/-- The document of a property. -/
def PropertySetting.toJson (p : PropertySetting) : Json :=
  .mkObj [("name", .str p.name), ("location", .str p.location), ("attribute", .str p.reference)]

/-- The document of a resource type. -/
def ResourceTypeSetting.toJson (t : ResourceTypeSetting) : Json :=
  .mkObj [("name", .str t.name), ("location", .str t.location), ("parents", .strs t.parents),
    ("resource_name_template", .str t.nameTemplate),
    ("metrics", .arr (t.metrics.map MetricSetting.toJson)),
    ("avails", .arr (t.avails.map AvailSetting.toJson)),
    ("config_properties", .arr (t.properties.map PropertySetting.toJson)),
    ("operations", .strs t.operations)]

/-- The document of a type set. -/
def TypeSetSetting.toJson (s : TypeSetSetting) : Json :=
  .mkObj [("name", .str s.name), ("enabled", .bool s.enabled),
    ("resource_types", .arr (s.resourceTypes.map ResourceTypeSetting.toJson))]

/-- The document of an endpoint. -/
def RemoteEndpointSetting.toJson (e : RemoteEndpointSetting) : Json :=
  .mkObj [("name", .str e.name), ("enabled", .bool e.enabled), ("url", .str e.url),
    ("username", .optStr e.username), ("password", .optStr e.password),
    ("timeout_secs", .word e.timeoutSecs),
    ("resource_type_sets", (e.resourceTypeSets.map Json.strs).getD .null),
    ("wait_for", .strs e.waitFor)]

/-- The document of the section of a protocol. -/
def ProtocolSection.toJson (s : ProtocolSection) : Json :=
  .mkObj [("type_sets", .arr (s.typeSets.map TypeSetSetting.toJson)),
    ("endpoints", .arr (s.endpoints.map RemoteEndpointSetting.toJson))]

/-- The document of the section that all endpoints share. -/
def AgentSection.toJson (a : AgentSection) : Json :=
  .mkObj [("feed_id", .str a.feedId),
    ("min_collection_interval_secs", .word a.minCollectionIntervalSecs),
    ("discovery_period_secs", .word a.discoveryPeriodSecs),
    ("poll_interval_ms", .word a.pollIntervalMillis),
    ("shutdown_timeout_secs", .word a.shutdownTimeoutSecs)]

/-- The document of the sizes of the buffers. -/
def StorageSection.toJson (s : StorageSection) : Json :=
  .mkObj [("metric_buffer_size", .word s.metricBufferSize),
    ("metric_batch_size", .word s.metricBatchSize), ("avail_buffer_size", .word s.availBufferSize),
    ("avail_batch_size", .word s.availBatchSize),
    ("flush_interval_ms", .word s.flushIntervalMillis),
    ("store_wait_millis", .word s.storeWaitMillis)]

/-- The document of the settings. -/
def Settings.toJson (s : Settings) : Json :=
  .mkObj [("agent", s.agent.toJson), ("storage", s.storage.toJson),
    ("diagnostics", .mkObj [("enabled", .bool s.diagnostics.enabled),
      ("report_interval_secs", .word s.diagnostics.reportIntervalSecs)]),
    ("dmr", s.dmr.toJson), ("jmx", s.jmx.toJson),
    ("platform", .mkObj [("enabled", .bool s.platform.enabled),
      ("interval_secs", .word s.platform.intervalSecs),
      ("machine_id", .optStr s.platform.machineId)])]

/-- The listing of a dispatcher's sizes. -/
def DispatcherConfig.listing (c : DispatcherConfig) : Json :=
  .arr [.word c.bufferSize, .word c.batchSize, .word c.flushMillis, .word c.storeWaitMillis]

/-- The listing of the endpoints that are switched on, with their timeouts. -/
def ProtocolSection.enabledListing (p : ProtocolSection) : Json :=
  .arr (p.enabledEndpoints.map fun e => .arr [.str e.name, .word e.timeoutSecs])

/-- The settings with what follows from them. -/
def Settings.listing (s : Settings) : Json :=
  .mkObj [("config", s.toJson), ("poll_ms", .word s.agent.pollIntervalMillis),
    ("discovery_secs", .optWord s.discoveryPeriodSecs),
    ("shutdown_secs", .word s.agent.shutdownTimeoutSecs),
    ("min_interval_ms", .word s.minIntervalMillis),
    ("metric_dispatcher", s.metricDispatcher.listing),
    ("avail_dispatcher", s.availDispatcher.listing),
    ("dmr_enabled", s.dmr.enabledListing), ("jmx_enabled", s.jmx.enabledListing),
    ("platform_interval", .str s.platformInterval.text)]

end EndpointMonitor
