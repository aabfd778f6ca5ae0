import EndpointMonitor.Settings.Decoding
import EndpointMonitor.Delivery.DataPoint

/-!
# Data points as documents

A data point on its own is a document with its key. A value that is no number, or infinite, is
written as a name.
-/

namespace EndpointMonitor

/-- The first and the last millisecond of the calendar. -/
def calendar : Int × Int :=
  (-8334601228800000, 8210266876799999)

/-- A time within the calendar. -/
def timestampOf? : Json → Option Int
  | .num (.int i) => if calendar.1 ≤ i ∧ i ≤ calendar.2 then some i else none
  | _ => none

/-- The value of a metric, by its number or by its name. -/
def metricValueOf? : Json → Option Float
  | .num n => some n.toFloat
  | .str "nan" => some (0.0 / 0.0)
  | .str "inf" => some (1.0 / 0.0)
  | .str "-inf" => some (-1.0 / 0.0)
  | _ => none

namespace MetricPoint

/-- The metric sample of a document. -/
def ofJson? (j : Json) : Option MetricPoint := do
  let f ← Decoding.fieldsOf .json 5 j
  return {
    key := ← Decoding.required f 0 "key" Json.string?
    timestamp := ← Decoding.required f 1 "timestamp" timestampOf?
    value := ← Decoding.required f 2 "value" metricValueOf?
    kind := ← Decoding.required f 3 "kind" (Decoding.choice .json MetricKind.ofName?)
    units := ← Decoding.required f 4 "units" Json.string? }

/-- The document of a metric sample. -/
def toJson (p : MetricPoint) : Json :=
  .mkObj [("key", .str p.key), ("timestamp", .int p.timestamp), ("value", .num (.float p.value)),
    ("kind", .str p.kind.name), ("units", .str p.units)]

/-- The listing of a metric sample without its time; the value is listed exactly. -/
def listing (p : MetricPoint) : List Json :=
  [.str p.key, .str (bitsText p.value), .str p.kind.name, .str p.units]

end MetricPoint

namespace AvailPoint

/-- The availability sample of a document. -/
def ofJson? (j : Json) : Option AvailPoint := do
  let f ← Decoding.fieldsOf .json 3 j
  return {
    key := ← Decoding.required f 0 "key" Json.string?
    timestamp := ← Decoding.required f 1 "timestamp" timestampOf?
    value := ← Decoding.required f 2 "value" (Decoding.choice .json Avail.ofName?) }

/-- The document of an availability sample. -/
def toJson (p : AvailPoint) : Json :=
  .mkObj [("key", .str p.key), ("timestamp", .int p.timestamp), ("value", .str p.value.name)]

/-- The listing of an availability sample without its time. -/
def listing (p : AvailPoint) : List Json :=
  [.str p.key, .str p.value.name]

end AvailPoint

end EndpointMonitor
