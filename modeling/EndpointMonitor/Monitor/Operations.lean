import EndpointMonitor.Monitor.Measurement
import EndpointMonitor.Monitor.Patch
import EndpointMonitor.Schedule.CollectionQueue

/-!
# Operations on a monitored endpoint

A monitor keeps the resources of one endpoint and the queues of their measurements. The queues
follow every change of the resources at once. One scan runs at a time, and however it ends the
next one may start.
-/

namespace EndpointMonitor

/-- A monitored endpoint. -/
structure Monitor (L σ : Type) where
  graph : ResourceGraph L := {}
  metrics : CollectionQueue L MetricDetail := {}
  avails : CollectionQueue L AvailDetail := {}
  /-- Whether a scan is under way. -/
  scanning : Bool := false
  exchange : Exchange σ

/-- What a scan has led to. -/
structure ScanReport (L : Type) where
  change : InventoryChange L
  errors : Nat
  deriving Inhabited

/-- A listener with a state `τ`, who may use the monitor when told of a change. -/
abbrev Listener (L σ τ : Type) := InventoryChange L → Monitor L σ × τ → Monitor L σ × τ

namespace Monitor

variable {L σ τ : Type}

/-- A monitor without resources. -/
def start (peer : σ) : Monitor L σ :=
  { exchange := { peer } }

/-- Let the queues follow changes of the resources. -/
def observe (now : UInt64) (m : Monitor L σ) (events : List (GraphEvent L)) : Monitor L σ :=
  { m with
    metrics := events.foldl (CollectionQueue.observe now) m.metrics
    avails := events.foldl (CollectionQueue.observe now) m.avails }

/-- Take over resources after something was removed from them. -/
def adoptRemoval (now : UInt64) (m : Monitor L σ)
    (removal : ResourceGraph L × List (Resource L)) : Monitor L σ × List (Resource L) :=
  ({ m with graph := removal.1 }.observe now (removal.2.map .removed), removal.2)

/-- Remove the resources that a query addresses, with everything below them. -/
def removeCovered [Location L] (now : UInt64) (query : L) (m : Monitor L σ) :
    Monitor L σ × List (Resource L) :=
  m.adoptRemoval now (m.graph.removeCovered query)

/-- Remove all resources. -/
def clear (now : UInt64) (m : Monitor L σ) : Monitor L σ × List (Resource L) :=
  m.adoptRemoval now m.graph.clear

/-- Append a line to the log. -/
def note (m : Monitor L σ) (level : LogLevel) (message : String) : Monitor L σ :=
  { m with exchange := { m.exchange with log := m.exchange.log ++ [⟨level, message⟩] } }

/-- Count a finished scan. -/
def countScan (m : Monitor L σ) : Monitor L σ :=
  { m with exchange := { m.exchange with diagnostics := m.exchange.diagnostics.recordScan 0 } }

variable [Location L]

/-- Take over the resources after what a scan has found was put into them. -/
def adoptPatch (now : UInt64) (m : Monitor L σ) (p : Patch L) : Monitor L σ :=
  { m with graph := p.graph }.observe now p.events

/-- Put what a scan has found into the resources. -/
def adopt (p : Profile L σ) (now : UInt64) (m : Monitor L σ) (found : Found L) :
    Monitor L σ × ScanReport L :=
  let patch := Patch.ofFound m.graph found
  let m := m.adoptPatch now patch
  let m :=
    if found.errors = 0 then m
    else m.note .warn ("Discovery of endpoint [" ++ p.name ++ "] had [" ++ toString found.errors ++
      "] errors, keeping resources that were not found")
  (m.countScan, ⟨patch.change, found.errors⟩)

/-- Search the endpoint. Nothing else of the monitor changes. -/
def search (p : Profile L σ) (depth : Nat) (m : Monitor L σ) :
    Except Failure (Found L) × Monitor L σ :=
  let (found, exchange) := (p.scanReady depth).run m.exchange
  let m := { m with exchange }
  match found with
  | .error b => (.error (.cutShort b), m)
  | .ok (.error e) => (.error (.refused e), m)
  | .ok (.ok found) => (.ok found, m)

/-- Tell the listener of a change, if there is one. -/
def announce (listen : Listener L σ τ) (change : InventoryChange L) (m : Monitor L σ × τ) :
    Monitor L σ × τ :=
  if change.isEmpty then m else listen change m

/-- Scan the endpoint, put what is found into the resources, and tell the listener. The scan is
under way until the listener has returned. -/
def discover (p : Profile L σ) (depth : Nat) (now : UInt64) (listen : Listener L σ τ)
    (m : Monitor L σ × τ) : Except Failure (ScanReport L) × Monitor L σ × τ :=
  let (m, t) := m
  if m.scanning then (.error (.refused (.scanInProgress p.name)), m, t)
  else
    match search p depth { m with scanning := true } with
    | (.error f, m) => (.error f, { m with scanning := false }, t)
    | (.ok found, m) =>
      let (m, report) := m.adopt p now found
      let (m, t) := announce listen report.change (m, t)
      (.ok report, { m with scanning := false }, t)

/-- Collect a batch of metrics. -/
def collectMetrics (p : Profile L σ) (now : UInt64) (ms : List (MetricInstance L))
    (m : Monitor L σ) : Batch MetricPoint × Monitor L σ :=
  let (batch, exchange) := (p.collectMetrics now ms).run m.exchange
  (batch, { m with exchange })

/-- Collect a batch of availabilities. -/
def collectAvails (p : Profile L σ) (now : UInt64) (ms : List (AvailInstance L))
    (m : Monitor L σ) : Batch AvailPoint × Monitor L σ :=
  let (batch, exchange) := (p.collectAvails now ms).run m.exchange
  (batch, { m with exchange })

end Monitor

end EndpointMonitor
