import EndpointMonitor.Agent.Wiring
import EndpointMonitor.Endpoint.Snapshot
import EndpointMonitor.Schedule.EndpointTask
import EndpointMonitor.Delivery.Worker

/-!
# The agent in time

An agent that runs monitors its endpoints side by side and hands their data points to the
storage. It reports about itself in a fixed period, and once more when it stops.
-/

namespace EndpointMonitor

/-- What an agent finds around it: the network and the host. -/
structure Surroundings (σ : Type) where
  transport : Transport σ
  network : σ
  host : Snapshot PlatformPath

/-- An endpoint that is being monitored. -/
structure Watch (L σ : Type) where
  profile : Profile L σ
  run : EndpointRun L σ

namespace Watch

variable {L σ : Type} [Location L]

/-- The greatest depth of a scan. -/
def scanDepth : Nat := 10000

/-- Start to monitor an endpoint. -/
def start (feed : String) (origin : UInt64) (plan : EndpointPlan L) (endpoint : Endpoint L σ)
    (peer : σ) : Watch L σ where
  profile := {
    feed, endpoint
    name := plan.name
    waitFor := plan.waitFor
    types := plan.types }
  run := EndpointRun.start { origin, world := { monitor := .start peer } }

/-- Let the time pass up to an instant. -/
def advanceTo (pace : Pace) (instant : Nat) (w : Watch L σ) : Watch L σ :=
  { w with run := w.run.advanceTo (EndpointTask.rules w.profile scanDepth pace) instant }

/-- Stop to monitor the endpoint. -/
def stop (w : Watch L σ) : Watch L σ :=
  { w with run := EndpointRun.stop w.run }

/-- The exchange with the endpoint. -/
def exchange (w : Watch L σ) : Exchange σ :=
  w.run.world.monitor.exchange

/-- Take out the data points collected so far. -/
def harvest (w : Watch L σ) : List MetricPoint × List AvailPoint × Watch L σ :=
  let h := w.run.world
  let emptied := { w.run with world := { monitor := h.monitor } }
  (h.metricPoints, h.availPoints, { w with run := emptied })

end Watch

/-- An endpoint of any protocol that is being monitored. -/
inductive AnyWatch (σ : Type) where
  | management (watch : Watch ManagementAddress σ)
  | jolokia (watch : Watch ObjectName σ)
  | host (watch : Watch PlatformPath (Snapshot PlatformPath))

namespace AnyWatch

variable {σ : Type}

/-- Start to monitor an endpoint. -/
def start (feed : String) (origin : UInt64) (around : Surroundings σ) :
    PlannedEndpoint → AnyWatch σ
  | .management c plan =>
    .management (.start feed origin plan (ManagementApi.endpoint c around.transport) around.network)
  | .jolokia c plan =>
    .jolokia (.start feed origin plan (Jolokia.endpoint c around.transport) around.network)
  | .host plan => .host (.start feed origin plan (Snapshot.endpoint "platform") around.host)

/-- Let the time pass up to an instant. -/
def advanceTo (pace : Pace) (instant : Nat) : AnyWatch σ → AnyWatch σ
  | .management w => .management (w.advanceTo pace instant)
  | .jolokia w => .jolokia (w.advanceTo pace instant)
  | .host w => .host (w.advanceTo pace instant)

/-- Stop to monitor the endpoint. -/
def stop : AnyWatch σ → AnyWatch σ
  | .management w => .management w.stop
  | .jolokia w => .jolokia w.stop
  | .host w => .host w.stop

/-- What is counted about the endpoint. -/
def diagnostics : AnyWatch σ → Diagnostics
  | .management w => w.exchange.diagnostics
  | .jolokia w => w.exchange.diagnostics
  | .host w => w.exchange.diagnostics

/-- What is reported about the endpoint. -/
def log : AnyWatch σ → List LogLine
  | .management w => w.exchange.log
  | .jolokia w => w.exchange.log
  | .host w => w.exchange.log

/-- Take out the data points collected so far. -/
def harvest : AnyWatch σ → List MetricPoint × List AvailPoint × AnyWatch σ
  | .management w => let (ms, as, w) := w.harvest; (ms, as, .management w)
  | .jolokia w => let (ms, as, w) := w.harvest; (ms, as, .jolokia w)
  | .host w => let (ms, as, w) := w.harvest; (ms, as, .host w)

end AnyWatch

/-- How often the endpoints of an agent are looked at. -/
def Settings.pace (s : Settings) : Pace where
  pollMillis := s.agent.pollIntervalMillis
  periodMillis := s.discoveryPeriodSecs.map (satMul · 1000)

/-- An agent that runs. -/
structure Agent (σ : Type) where
  settings : Settings
  watches : List (AnyWatch σ)
  metrics : Dispatcher MetricPoint
  avails : Dispatcher AvailPoint
  /-- The milliseconds since the start. -/
  elapsed : Nat := 0

namespace Agent

variable {σ : Type}

/-- Start to monitor endpoints at a reading of the clock. -/
def start (s : Settings) (endpoints : List PlannedEndpoint) (around : Surroundings σ)
    (origin : UInt64) : Agent σ where
  settings := s
  watches := endpoints.map (AnyWatch.start s.agent.feedId origin around)
  metrics := .start s.metricDispatcher
  avails := .start s.availDispatcher

/-- Hand the data points of the endpoints to the storage. -/
def deliver (storage : Storage) (a : Agent σ) : Agent σ :=
  let harvests := a.watches.map AnyWatch.harvest
  { a with
    watches := harvests.map fun (_, _, w) => w
    metrics := (a.metrics.dispatchAll storage (harvests.flatMap fun (ms, _, _) => ms)).1
    avails := (a.avails.dispatchAll storage (harvests.flatMap fun (_, as, _) => as)).1 }

/-- Let the time pass up to an instant. -/
def advanceTo (storage : Storage) (instant : Nat) (a : Agent σ) : Agent σ :=
  deliver storage { a with
    watches := a.watches.map (AnyWatch.advanceTo a.settings.pace instant)
    elapsed := instant }

/-- Stop: first the endpoints, then the dispatchers, which store what they still hold. -/
def stop (storage : Storage) (a : Agent σ) : Agent σ :=
  let timeout := satMul a.settings.agent.shutdownTimeoutSecs 1000
  { a with
    watches := a.watches.map AnyWatch.stop
    metrics := (a.metrics.shutdown storage timeout).1
    avails := (a.avails.shutdown storage timeout).1 }

/-- What is counted about the agent. -/
def diagnostics (a : Agent σ) : Diagnostics :=
  a.watches.foldl (fun d w => d.addActivity w.diagnostics)
    { metrics := a.metrics.stats, avails := a.avails.stats }

/-- The number of reports that are due before an instant, one after each period. -/
def reportsBefore (s : Settings) (instant : Nat) : Nat :=
  if s.diagnostics.enabled then (instant - 1) / (s.diagnostics.reportIntervalSecs.toNat * 1000)
  else 0

/-- The number of reports of an agent that is stopped at an instant, where it reports once more. -/
def reportCount (s : Settings) (instant : Nat) : Nat :=
  reportsBefore s instant + 1

/-- The report of an agent about itself. -/
def report (a : Agent σ) : List LogLine :=
  ⟨.info, "Diagnostics: " ++ a.diagnostics.toJson.render⟩ :: a.diagnostics.warnings

/-- What has been reported since an earlier state of the agent. -/
def logSince (earlier a : Agent σ) : List LogLine :=
  ((earlier.watches.zip a.watches).flatMap fun (v, w) => w.log.drop v.log.length) ++
    a.metrics.log.drop earlier.metrics.log.length ++ a.avails.log.drop earlier.avails.log.length

end Agent

end EndpointMonitor
