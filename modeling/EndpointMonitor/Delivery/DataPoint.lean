import EndpointMonitor.Diagnostics
import EndpointMonitor.Json.Basic

/-!
# Data points

Collection yields metric samples and availability samples. Merging availabilities lets DOWN
win over UNKNOWN, and UNKNOWN over UP, whatever their order.
-/

namespace EndpointMonitor

/-- The availability of a resource. -/
inductive Avail where
  | up
  | down
  | unknown
  deriving DecidableEq, Inhabited

namespace Avail

/-- The worse of two availabilities. -/
def merge : Avail → Avail → Avail
  | .down, _ => .down
  | _, .down => .down
  | .unknown, _ => .unknown
  | _, .unknown => .unknown
  | .up, .up => .up

/-- The availability a flag stands for. -/
def ofBool (up : Bool) : Avail :=
  if up then .up else .down

/-- The name of an availability. -/
def name : Avail → String
  | .up => "UP"
  | .down => "DOWN"
  | .unknown => "UNKNOWN"

/-- The availability of a name. -/
def ofName? : String → Option Avail
  | "UP" => some .up
  | "DOWN" => some .down
  | "UNKNOWN" => some .unknown
  | _ => none

theorem merge_comm (a b : Avail) : merge a b = merge b a := by
  cases a <;> cases b <;> rfl

theorem merge_assoc (a b c : Avail) : merge (merge a b) c = merge a (merge b c) := by
  cases a <;> cases b <;> cases c <;> rfl

end Avail

/-- How the value of a metric evolves. -/
inductive MetricKind where
  | gauge
  | counter
  deriving DecidableEq, Inhabited

namespace MetricKind

/-- The name of a kind. -/
def name : MetricKind → String
  | .gauge => "gauge"
  | .counter => "counter"

/-- The kind of a name. -/
def ofName? : String → Option MetricKind
  | "gauge" => some .gauge
  | "counter" => some .counter
  | _ => none

end MetricKind

/-- A sample of a metric, at a time in milliseconds. -/
structure MetricPoint where
  key : String
  timestamp : Int
  value : Float
  kind : MetricKind
  units : String
  deriving Inhabited

/-- A sample of an availability, at a time in milliseconds. -/
structure AvailPoint where
  key : String
  timestamp : Int
  value : Avail
  deriving DecidableEq, Inhabited

/-- What can be buffered and stored. -/
class DataPoint (P : Type) where
  buffer : BufferKind
  /-- The name of the points in log lines about storage. -/
  noun : String
  /-- The key under which a point is stored. -/
  key : P → String
  /-- The stored form of a point, without its key. -/
  sample : P → Json

instance : DataPoint MetricPoint where
  buffer := .metrics
  noun := "metric"
  key := MetricPoint.key
  sample p := Json.mkObj [("timestamp", .int p.timestamp), ("value", .num (.float p.value)),
    ("type", .str p.kind.name), ("units", .str p.units)]

instance : DataPoint AvailPoint where
  buffer := .avails
  noun := "avail"
  key := AvailPoint.key
  sample p := Json.mkObj [("timestamp", .int p.timestamp), ("value", .str p.value.name)]

end EndpointMonitor
