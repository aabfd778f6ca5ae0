import EndpointMonitor.Http.Jolokia
import EndpointMonitor.Http.ManagementApi
import EndpointMonitor.ResourceType.Graph
import EndpointMonitor.Platform.HostTypes
import EndpointMonitor.Settings.TypeSets

/-!
# From settings to endpoints

Every enabled endpoint of the settings becomes an endpoint that can be monitored, or a line in
the log that says why it cannot. One endpoint never keeps another from being monitored, and a
type set that cannot be read is left out.
-/

namespace EndpointMonitor

/-- Why an endpoint of the settings is not monitored. -/
inductive EndpointFault where
  | badUrl (endpoint : String) (fault : LocationFault)
  | badTypes (endpoint : String) (error : ConfigError)
  | badWaitFor (endpoint : String) (fault : LocationFault)
  deriving DecidableEq, Inhabited

/-- The wording of an endpoint fault. -/
def EndpointFault.message : EndpointFault → String
  | .badUrl endpoint fault =>
    "Invalid address for endpoint [" ++ endpoint ++ "]: " ++
      (AccessError.invalidLocation fault).message
  | .badTypes endpoint error =>
    "Invalid type configuration for endpoint [" ++ endpoint ++ "]: " ++ error.message
  | .badWaitFor endpoint fault =>
    "Invalid address for endpoint [" ++ endpoint ++ "]: wait_for: " ++
      (AccessError.invalidLocation fault).message

/-- What is monitored at an endpoint. -/
structure EndpointPlan (L : Type) where
  name : String
  waitFor : List L := []
  types : TypeGraph L

/-- An endpoint that can be monitored. -/
inductive PlannedEndpoint where
  | management (connection : Connection) (plan : EndpointPlan ManagementAddress)
  | jolokia (connection : Connection) (plan : EndpointPlan ObjectName)
  | host (plan : EndpointPlan PlatformPath)

/-- The name of an endpoint. -/
def PlannedEndpoint.name : PlannedEndpoint → String
  | .management _ plan => plan.name
  | .jolokia _ plan => plan.name
  | .host plan => plan.name

/-- A result that is reported on the way. -/
structure Reported (α : Type) where
  result : α
  log : List LogLine := []

namespace RemoteEndpointSetting

/-- Where the endpoint is found. -/
def connection (e : RemoteEndpointSetting) : Connection :=
  ⟨e.url, e.username, e.password, e.timeoutSecs⟩

end RemoteEndpointSetting

namespace Wiring

section Plans

variable {L : Type}

/-- The plan of an endpoint with a choice of type sets. -/
def plan (name : String) (waitFor : Except LocationFault (List L)) (sets : List (TypeSet L))
    (use : Option (List String)) (minMillis : UInt64) :
    Reported (Except EndpointFault (EndpointPlan L)) where
  result := do
    let types ← (TypeGraph.build sets use minMillis).mapError (.badTypes name)
    let waitFor ← waitFor.mapError (.badWaitFor name)
    return { name, waitFor, types }
  log := TypeGraph.buildLog sets use minMillis

/-- The plan of an endpoint that is reached over the network. Its URL is checked first. -/
def remotePlan [Location L] (checkUrl : String → Except LocationFault Unit)
    (minMillis : UInt64) (sets : List (TypeSet L)) (e : RemoteEndpointSetting) :
    Reported (Except EndpointFault (EndpointPlan L)) :=
  match checkUrl e.url with
  | .error fault => { result := .error (.badUrl e.name fault) }
  | .ok _ => plan e.name (e.waitFor.mapM Location.read) sets e.resourceTypeSets minMillis

/-- The type sets of a section that can be read, and a warning for each other one. -/
def typeSets [Location L] (protocol : String) (s : ProtocolSection) :
    Reported (List (TypeSet L)) where
  result := s.typeSets.filterMap fun set => set.toTypeSet.toOption
  log := s.typeSets.filterMap fun set =>
    match set.toTypeSet (L := L) with
    | .ok _ => none
    | .error e => some ⟨.warn,
        "Ignoring " ++ protocol ++ " type set [" ++ set.name ++ "]: " ++ e.message⟩

/-- Keep a plan that has been made, and report one that has not. -/
def keep (wrap : EndpointPlan L → PlannedEndpoint)
    (made : Reported (Except EndpointFault (EndpointPlan L))) : Reported (List PlannedEndpoint) :=
  match made.result with
  | .ok plan => ⟨[wrap plan], made.log⟩
  | .error fault =>
    ⟨[], made.log ++ [⟨.error, "Endpoint will not be monitored: " ++ fault.message⟩]⟩

/-- The endpoints of a section. -/
def remoteParts [Location L] (protocol : String) (checkUrl : String → Except LocationFault Unit)
    (wrap : Connection → EndpointPlan L → PlannedEndpoint) (minMillis : UInt64)
    (s : ProtocolSection) : List (Reported (List PlannedEndpoint)) :=
  let sets := typeSets (L := L) protocol s
  ⟨[], sets.log⟩ :: s.enabledEndpoints.map fun e =>
    keep (wrap e.connection) (remotePlan checkUrl minMillis sets.result e)

end Plans

/-- The name of the endpoint that is the host itself. -/
def hostName : String := "Platform"

/-- The endpoint that is the host itself. -/
def host (s : Settings) : Reported (List PlannedEndpoint) :=
  if s.platform.enabled then
    keep .host (plan hostName (.ok []) [HostTypes.typeSet s.platformInterval] none
      s.minIntervalMillis)
  else ⟨[], []⟩

/-- The endpoints of the settings one after the other. -/
def parts (s : Settings) : List (Reported (List PlannedEndpoint)) :=
  remoteParts "dmr" ManagementApi.checkUrl .management s.minIntervalMillis s.dmr ++
    remoteParts "jmx" Jolokia.checkUrl .jolokia s.minIntervalMillis s.jmx ++ [host s]

/-- The endpoints of the settings that can be monitored, and what is reported about the others. -/
def ofSettings (s : Settings) : Reported (List PlannedEndpoint) :=
  ⟨(parts s).flatMap (·.result), (parts s).flatMap (·.log)⟩

end Wiring

end EndpointMonitor
