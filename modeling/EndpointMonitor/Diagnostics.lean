import EndpointMonitor.Json.Basic
import EndpointMonitor.Log
import EndpointMonitor.Number.Shortest
import Std.Data.TreeMap

/-!
# Counters about the agent itself

The counters only record; nothing reads them to make a decision. They are words that wrap
around, and the latencies of a protocol are those of its last hundred requests.
-/

namespace EndpointMonitor

/-- The two buffers of data points. -/
inductive BufferKind where
  | metrics
  | avails
  deriving DecidableEq, Inhabited

/-- The name of a buffer in log lines. -/
def BufferKind.name : BufferKind → String
  | .metrics => "Metrics"
  | .avails => "Avails"

/-- The requests made with one protocol. -/
structure ProtocolStats where
  requests : UInt64 := 0
  errors : UInt64 := 0
  latencies : List UInt64 := []
  deriving Inhabited

namespace ProtocolStats

/-- The number of latencies that are kept. -/
def latencyLimit : Nat := 100

/-- Count one request of the given latency in milliseconds. -/
def record (s : ProtocolStats) (millis : UInt64) (failed : Bool) : ProtocolStats :=
  let kept := s.latencies ++ [millis]
  { requests := s.requests + 1
    errors := if failed then s.errors + 1 else s.errors
    latencies := kept.drop (kept.length - latencyLimit) }

/-- The failed requests in percent of all requests. -/
def errorRate (s : ProtocolStats) : Float :=
  if s.requests = 0 then 0.0 else s.errors.toFloat / s.requests.toFloat * 100.0

/-- A latency in milliseconds, from its seconds and its fraction of a second. -/
def latencyMillis (millis : UInt64) : Float :=
  ((millis / 1000).toFloat + (millis % 1000 * 1000000).toFloat / 1000000000.0) * 1000.0

/-- The average of the latencies in milliseconds. -/
def averageLatency (s : ProtocolStats) : Float :=
  if s.latencies.isEmpty then 0.0
  else
    s.latencies.foldl (fun sum millis => sum + latencyMillis millis) 0.0 /
      Float.ofNat s.latencies.length

/-- The requests of two counters together. -/
def merge (s t : ProtocolStats) : ProtocolStats :=
  let kept := s.latencies ++ t.latencies
  { requests := s.requests + t.requests
    errors := s.errors + t.errors
    latencies := kept.drop (kept.length - latencyLimit) }

end ProtocolStats

/-- The counters of one buffer. -/
structure BufferStats where
  occupancy : UInt64 := 0
  dropped : UInt64 := 0
  stored : UInt64 := 0
  storageFailures : UInt64 := 0
  deriving DecidableEq, Inhabited

/-- All counters. -/
structure Diagnostics where
  protocols : Std.TreeMap String ProtocolStats := ∅
  delayed : UInt64 := 0
  metrics : BufferStats := {}
  avails : BufferStats := {}
  scans : UInt64 := 0
  lastScanMillis : UInt64 := 0
  deriving Inhabited

namespace Diagnostics

/-- The counters of a buffer. -/
def buffer (d : Diagnostics) : BufferKind → BufferStats
  | .metrics => d.metrics
  | .avails => d.avails

/-- Change the counters of a buffer. -/
def updateBuffer (d : Diagnostics) (kind : BufferKind) (change : BufferStats → BufferStats) :
    Diagnostics :=
  match kind with
  | .metrics => { d with metrics := change d.metrics }
  | .avails => { d with avails := change d.avails }

/-- Count a finished request. -/
def recordRequest (d : Diagnostics) (protocol : String) (millis : UInt64) (failed : Bool) :
    Diagnostics :=
  let stats := (d.protocols[protocol]?.getD {}).record millis failed
  { d with protocols := d.protocols.insert protocol stats }

/-- Count collections that started later than they were due. -/
def recordDelayed (d : Diagnostics) (n : UInt64) : Diagnostics :=
  { d with delayed := d.delayed + n }

/-- Note how many points wait in a buffer. -/
def setOccupancy (d : Diagnostics) (kind : BufferKind) (n : UInt64) : Diagnostics :=
  d.updateBuffer kind fun b => { b with occupancy := n }

/-- Count points that did not fit into a buffer. -/
def recordDropped (d : Diagnostics) (kind : BufferKind) (n : UInt64) : Diagnostics :=
  d.updateBuffer kind fun b => { b with dropped := b.dropped + n }

/-- Count points that were stored. -/
def recordStored (d : Diagnostics) (kind : BufferKind) (n : UInt64) : Diagnostics :=
  d.updateBuffer kind fun b => { b with stored := b.stored + n }

/-- Count a batch that could not be stored. -/
def recordStorageFailure (d : Diagnostics) (kind : BufferKind) : Diagnostics :=
  d.updateBuffer kind fun b => { b with storageFailures := b.storageFailures + 1 }

/-- Count a finished scan. -/
def recordScan (d : Diagnostics) (millis : UInt64) : Diagnostics :=
  { d with scans := d.scans + 1, lastScanMillis := millis }

/-- The warnings of a report: protocols with many requests most of which fail. -/
def warnings (d : Diagnostics) : List LogLine :=
  d.protocols.toList.filterMap fun (protocol, s) =>
    if s.requests ≥ 10 && s.errorRate > 50.0 then
      some ⟨.warn, "High " ++ protocol ++ " error rate: " ++ Decimal.fixedText 1 s.errorRate ++
        "% of " ++ toString s.requests ++ " requests"⟩
    else none

/-- Add what was counted elsewhere about requests, scans and late collections. -/
def addActivity (d e : Diagnostics) : Diagnostics :=
  { d with
    protocols := e.protocols.foldl (fun protocols name stats =>
      protocols.insert name ((protocols[name]?.getD {}).merge stats)) d.protocols
    delayed := d.delayed + e.delayed
    scans := d.scans + e.scans
    lastScanMillis := e.lastScanMillis }

end Diagnostics

/-- The listing of the counters of a buffer. -/
def BufferStats.toJson (b : BufferStats) : Json :=
  .mkObj [("dropped", .word b.dropped), ("stored", .word b.stored),
    ("storage_failures", .word b.storageFailures)]

/-- The listing of the counters of a protocol. -/
def ProtocolStats.toJson (s : ProtocolStats) : Json :=
  .mkObj [("requests", .word s.requests), ("errors", .word s.errors),
    ("error_rate", .str (bitsText s.errorRate))]

/-- The listing of all counters. -/
def Diagnostics.toJson (d : Diagnostics) : Json :=
  .mkObj [("protocols", .mkObj (d.protocols.toList.map fun (name, s) => (name, s.toJson))),
    ("delayed", .word d.delayed), ("scans", .word d.scans),
    ("metrics_buffer", d.metrics.toJson), ("avails_buffer", d.avails.toJson)]

end EndpointMonitor
