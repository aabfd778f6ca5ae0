import EndpointMonitor.Monitor.Operations
import EndpointMonitor.Schedule.CollectionLoop

/-!
# The tasks of an endpoint

While an endpoint is monitored one task scans it again and again, and two loops collect its
metrics and its availabilities. Stopping ends the tasks and removes all resources.
-/

namespace EndpointMonitor

/-- How often the tasks of an endpoint go on. -/
structure Pace where
  /-- The longest sleep of a collection loop. -/
  pollMillis : UInt64
  /-- The time between two scans; without it one scan is enough. -/
  periodMillis : Option UInt64
  deriving DecidableEq, Inhabited

/-- Where the task that scans stands. -/
inductive ScanPhase where
  | due
  | sleeping (wake : Nat)
  deriving DecidableEq, Inhabited

/-- A task of an endpoint. -/
inductive EndpointTask where
  | scans (phase : ScanPhase)
  | metrics (phase : LoopPhase)
  | avails (phase : LoopPhase)
  deriving DecidableEq, Inhabited

/-- A monitor with the data points it has collected. -/
structure Harvest (L σ : Type) where
  monitor : Monitor L σ
  metricPoints : List MetricPoint := []
  availPoints : List AvailPoint := []

/-- The longest time until an endpoint that is not ready is scanned again. -/
def notReadyRetryMillis : UInt64 := 10000

/-- The time until the next scan, or `none` if there is no other scan. -/
def nextScanMillis {α : Type} (period : Option UInt64) : Except Failure α → Option UInt64
  | .ok _ => period
  | .error (.refused (.notReady _)) =>
    some (min (period.getD notReadyRetryMillis) notReadyRetryMillis)
  | .error _ => period

namespace Monitor

variable {L σ : Type}

/-- Report how a batch ended, unless it went well. -/
def noteEnding (m : Monitor L σ) (endpoint noun : String) : Except Failure Unit → Monitor L σ
  | .ok _ => m
  | .error (.refused (.notReady _)) => m
  | .error (.refused e) =>
    m.note .warn ("Failed to collect " ++ noun ++ "s for endpoint [" ++ endpoint ++ "]: " ++
      e.message)
  | .error (.cutShort _) =>
    m.note .error (noun ++ " collection task for endpoint [" ++ endpoint ++ "] failed")

/-- Report that a scan failed; an endpoint that is not ready is no failure. -/
def noteScan {α : Type} (m : Monitor L σ) (endpoint : String) : Except Failure α → Monitor L σ
  | .ok _ => m
  | .error (.refused (.notReady _)) => m
  | .error (.refused e) =>
    m.note .warn ("Discovery of endpoint [" ++ endpoint ++ "] failed: " ++ e.message)
  | .error (.cutShort _) =>
    m.note .warn ("Discovery task of endpoint [" ++ endpoint ++ "] failed")

/-- Count collections that started late. -/
def countLate (m : Monitor L σ) (n : Nat) : Monitor L σ :=
  { m with exchange := { m.exchange with
      diagnostics := m.exchange.diagnostics.recordDelayed (UInt64.ofNat n) } }

end Monitor

namespace Harvest

variable {L σ : Type} [Location L]

/-- Let the loop of the metrics go on. -/
def metricStep (p : Profile L σ) (pace : Pace) (elapsed : Nat) (now : UInt64)
    (phase : LoopPhase) (h : Harvest L σ) : LoopPhase × Harvest L σ :=
  let turn := phase.step pace.pollMillis now elapsed h.monitor.metrics
  let m := { h.monitor with metrics := turn.queue }
  if turn.batch.isEmpty then (turn.phase, { h with monitor := m })
  else
    let m := m.countLate (lateCount now turn.batch)
    let (batch, m) := m.collectMetrics p now (turn.batch.map (·.measurement))
    (turn.phase, { h with
      monitor := m.noteEnding p.name (MeasurementKind.noun MetricDetail) batch.ending
      metricPoints := h.metricPoints ++ batch.points })

/-- Let the loop of the availabilities go on. -/
def availStep (p : Profile L σ) (pace : Pace) (elapsed : Nat) (now : UInt64)
    (phase : LoopPhase) (h : Harvest L σ) : LoopPhase × Harvest L σ :=
  let turn := phase.step pace.pollMillis now elapsed h.monitor.avails
  let m := { h.monitor with avails := turn.queue }
  if turn.batch.isEmpty then (turn.phase, { h with monitor := m })
  else
    let m := m.countLate (lateCount now turn.batch)
    let (batch, m) := m.collectAvails p now (turn.batch.map (·.measurement))
    (turn.phase, { h with
      monitor := m.noteEnding p.name (MeasurementKind.noun AvailDetail) batch.ending
      availPoints := h.availPoints ++ batch.points })

/-- Scan the endpoint, and say when the next scan is due. -/
def scanStep (p : Profile L σ) (depth : Nat) (pace : Pace) (elapsed : Nat) (now : UInt64)
    (h : Harvest L σ) : Option ScanPhase × Harvest L σ :=
  let (result, m, _) := Monitor.discover p depth now (fun _ m => m) (h.monitor, ())
  let next := (nextScanMillis pace.periodMillis result).map fun wait =>
    ScanPhase.sleeping (elapsed + wait.toNat)
  (next, { h with monitor := m.noteScan p.name result })

end Harvest

namespace EndpointTask

variable {L σ : Type} [Location L]

/-- The instant at which a task goes on; without one it goes on at once. -/
def wake (h : Harvest L σ) : EndpointTask → Option Nat
  | .scans .due => none
  | .scans (.sleeping instant) => some instant
  | .metrics phase => phase.wake h.monitor.metrics
  | .avails phase => phase.wake h.monitor.avails

/-- Let a task go on. -/
def step (p : Profile L σ) (depth : Nat) (pace : Pace) (elapsed : Nat) (now : UInt64)
    (task : EndpointTask) (h : Harvest L σ) : Option EndpointTask × Harvest L σ :=
  match task with
  | .scans _ =>
    let (phase, h) := h.scanStep p depth pace elapsed now
    (phase.map .scans, h)
  | .metrics phase =>
    let (phase, h) := h.metricStep p pace elapsed now phase
    (some (.metrics phase), h)
  | .avails phase =>
    let (phase, h) := h.availStep p pace elapsed now phase
    (some (.avails phase), h)

/-- How the tasks of an endpoint work. -/
def rules (p : Profile L σ) (depth : Nat) (pace : Pace) :
    TaskRules EndpointTask (Harvest L σ) where
  wake := wake
  step := step p depth pace

/-- A task that is told that its endpoint starts looks, or scans, at once. -/
def signalled : EndpointTask → EndpointTask
  | .scans _ => .scans .due
  | .metrics _ => .metrics .looking
  | .avails _ => .avails .looking

/-- The tasks of an endpoint that starts. -/
def initial : List EndpointTask :=
  [.metrics .looking, .avails .looking, .scans .due]

end EndpointTask

/-- The monitoring of one endpoint in time. -/
abbrev EndpointRun (L σ : Type) := Timeline EndpointTask (Harvest L σ)

namespace EndpointRun

variable {L σ : Type}

/-- Start the tasks of the endpoint. -/
def start (r : EndpointRun L σ) : EndpointRun L σ :=
  { r with tasks := r.tasks.map EndpointTask.signalled ++ EndpointTask.initial }

/-- End the tasks of the endpoint, and remove its resources. -/
def stop (r : EndpointRun L σ) : EndpointRun L σ :=
  let m := (r.world.monitor.clear r.now).1
  let m := { m with metrics := m.metrics.clear, avails := m.avails.clear }
  { r with tasks := [], world := { r.world with monitor := m } }

end EndpointRun

end EndpointMonitor
