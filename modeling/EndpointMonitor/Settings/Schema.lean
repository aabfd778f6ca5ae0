import EndpointMonitor.ResourceType.Interval
import EndpointMonitor.Delivery.Buffering

/-!
# The settings of the agent

Every section has defaults, so an empty configuration describes an agent that watches only
the host it runs on.
-/

namespace EndpointMonitor

/-- A metric of a resource type. -/
structure MetricSetting where
  name : String
  location : String := ""
  reference : String
  interval : UInt64
  timeUnits : TimeUnit := .seconds
  metricType : MetricKind := .gauge
  units : String := "none"
  enabled : Bool := true
  deriving Inhabited, DecidableEq

/-- An availability of a resource type. -/
structure AvailSetting where
  name : String
  location : String := ""
  reference : String
  interval : UInt64
  timeUnits : TimeUnit := .seconds
  upRegex : Option String := none
  enabled : Bool := true
  deriving Inhabited, DecidableEq

/-- A property of a resource that is read during discovery. -/
structure PropertySetting where
  name : String
  location : String := ""
  reference : String
  deriving Inhabited, DecidableEq

/-- A resource type. -/
structure ResourceTypeSetting where
  name : String
  location : String
  parents : List String := []
  nameTemplate : String
  metrics : List MetricSetting := []
  avails : List AvailSetting := []
  properties : List PropertySetting := []
  operations : List String := []
  deriving Inhabited, DecidableEq

/-- A named group of resource types. -/
structure TypeSetSetting where
  name : String
  enabled : Bool := true
  resourceTypes : List ResourceTypeSetting := []
  deriving Inhabited, DecidableEq

/-- A managed server that is reached over the network. -/
structure RemoteEndpointSetting where
  name : String
  enabled : Bool := true
  url : String
  username : Option String := none
  password : Option String := none
  timeoutSecs : UInt64 := 10
  resourceTypeSets : Option (List String) := none
  waitFor : List String := []
  deriving Inhabited, DecidableEq

/-- The settings that all endpoints share. -/
structure AgentSection where
  feedId : String := "vigil"
  minCollectionIntervalSecs : UInt64 := 30
  discoveryPeriodSecs : UInt64 := 600
  pollIntervalMillis : UInt64 := 1000
  shutdownTimeoutSecs : UInt64 := 5
  deriving Inhabited, DecidableEq

/-- The sizes of the buffers before the storage. -/
structure StorageSection where
  metricBufferSize : UInt64 := 1000
  metricBatchSize : UInt64 := 100
  availBufferSize : UInt64 := 500
  availBatchSize : UInt64 := 50
  flushIntervalMillis : UInt64 := 1000
  storeWaitMillis : UInt64 := 5000
  deriving Inhabited, DecidableEq

/-- The reports about the agent itself. -/
structure DiagnosticsSection where
  enabled : Bool := true
  reportIntervalSecs : UInt64 := 60
  deriving Inhabited, DecidableEq

/-- The type sets and endpoints of one remote protocol. -/
structure ProtocolSection where
  typeSets : List TypeSetSetting := []
  endpoints : List RemoteEndpointSetting := []
  deriving Inhabited, DecidableEq

/-- The host the agent runs on. -/
structure PlatformSection where
  enabled : Bool := true
  intervalSecs : UInt64 := 60
  machineId : Option String := none
  deriving Inhabited, DecidableEq

/-- All settings. -/
structure Settings where
  agent : AgentSection := {}
  storage : StorageSection := {}
  diagnostics : DiagnosticsSection := {}
  dmr : ProtocolSection := {}
  jmx : ProtocolSection := {}
  platform : PlatformSection := {}
  deriving Inhabited, DecidableEq

namespace ProtocolSection

/-- The endpoints that are switched on. -/
def enabledEndpoints (s : ProtocolSection) : List RemoteEndpointSetting :=
  s.endpoints.filter (·.enabled)

end ProtocolSection

namespace Settings

/-- The sizes of the dispatcher for metrics. -/
def metricDispatcher (s : Settings) : DispatcherConfig :=
  ⟨s.storage.metricBufferSize, s.storage.metricBatchSize, s.storage.flushIntervalMillis,
    s.storage.storeWaitMillis⟩

/-- The sizes of the dispatcher for availabilities. -/
def availDispatcher (s : Settings) : DispatcherConfig :=
  ⟨s.storage.availBufferSize, s.storage.availBatchSize, s.storage.flushIntervalMillis,
    s.storage.storeWaitMillis⟩

/-- The seconds between two scans, or `none` for a single scan at the start. -/
def discoveryPeriodSecs (s : Settings) : Option UInt64 :=
  if s.agent.discoveryPeriodSecs = 0 then none else some s.agent.discoveryPeriodSecs

/-- The shortest interval of a measurement that is collected. -/
def minIntervalMillis (s : Settings) : UInt64 :=
  satMul s.agent.minCollectionIntervalSecs 1000

/-- The interval of the measurements of the host. -/
def platformInterval (s : Settings) : Interval :=
  .seconds s.platform.intervalSecs

end Settings

end EndpointMonitor
