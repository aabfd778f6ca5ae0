import EndpointMonitor.Json.Printer
import EndpointMonitor.Delivery.DataPoint
import Std.Data.TreeMap

/-!
# Batches of data points

A payload groups the points of one batch by their key and keeps their order within a key.
-/

namespace EndpointMonitor

/-- One batch of data points, grouped by key. -/
structure Payload (P : Type) where
  series : Std.TreeMap String (List P) := ∅
  count : Nat := 0
  deriving Inhabited

/-- Why a payload was not stored. -/
inductive StorageError where
  | rejected (reason : String)
  | unreachable (reason : String)
  deriving DecidableEq, Inhabited

/-- The wording of a storage error. -/
def StorageError.message : StorageError → String
  | .rejected reason => "Storage rejected the payload: " ++ reason
  | .unreachable reason => "Storage unreachable: " ++ reason

namespace Payload

variable {P : Type} [DataPoint P]

/-- The batch without points. -/
def empty : Payload P :=
  {}

/-- The points of a key, in the order in which they were added. -/
def points (p : Payload P) (key : String) : List P :=
  p.series[key]?.getD []

/-- Add a point behind the others of its key. -/
def add (p : Payload P) (point : P) : Payload P :=
  { series := p.series.insert (DataPoint.key point) (p.points (DataPoint.key point) ++ [point])
    count := p.count + 1 }

/-- The keys in order. -/
def keys (p : Payload P) : List String :=
  p.series.keys

/-- The payload as JSON: the samples of each key, ordered by key. -/
def toJson (p : Payload P) : Json :=
  .arr (p.series.toList.map fun (key, points) =>
    Json.mkObj [("id", .str key), ("data", .arr (points.map DataPoint.sample))])

/-- The lines that are logged in place of storing a payload. -/
def logLines (p : Payload P) : List LogLine :=
  let noun := DataPoint.noun P
  [⟨.info, "Storing [" ++ toString p.count ++ "] " ++ noun ++ " data points for [" ++
      toString p.keys.length ++ "] keys"⟩,
    ⟨.debug, noun ++ " payload: " ++ p.toJson.render⟩]

@[simp] theorem count_add (p : Payload P) (point : P) : (p.add point).count = p.count + 1 := rfl

omit [DataPoint P] in
@[simp] theorem points_empty (key : String) : (empty : Payload P).points key = [] := by
  simp [empty, points]

theorem points_add (p : Payload P) (point : P) (key : String) :
    (p.add point).points key =
      if DataPoint.key point = key then p.points key ++ [point] else p.points key := by
  simp only [points, add, Std.TreeMap.getElem?_insert]
  by_cases h : DataPoint.key point = key
  · subst h; simp
  · simp [h]

end Payload

end EndpointMonitor
