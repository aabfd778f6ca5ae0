import EndpointMonitor.Resource.Basic
import EndpointMonitor.Monitor.Profile
import EndpointMonitor.Number.Reading
import EndpointMonitor.Text.Blank

/-!
# Measurements

A reading is reduced to one number or to one availability. A batch of measurements is taken in
one conversation: a metric that cannot be read yields no point, an availability that cannot be
read is DOWN, and an endpoint that is out of reach ends the batch.
-/

namespace EndpointMonitor

/-- The number a value stands for. -/
def numeric : Json → Option Float
  | .num n => some n.toFloat
  | .str s => Decimal.float? (Text.trimmed s)
  | .bool b => some (if b then 1.0 else 0.0)
  | _ => none

/-- The sum of the numbers in a reading, if there are any. -/
def metricValue (r : Reading) : Option Float :=
  match r.values.filterMap numeric with
  | [] => none
  | xs => some (xs.foldl (· + ·) 0.0)

/-- Whether a text counts as UP. -/
def isUpText (pattern : Option UpPattern) (text : String) : Bool :=
  match pattern with
  | some p => p.isMatch text
  | none => UpPattern.isDefaultMatch text

/-- The availability a value stands for. -/
def availOf (pattern : Option UpPattern) : Json → Avail
  | .bool up => .ofBool up
  | .num n => .ofBool (n.toFloat != 0.0)
  | .str s => .ofBool (isUpText pattern (Text.trimmed s))
  | _ => .unknown

/-- The worst availability in a reading; it is unknown if there is none. -/
def availValue (pattern : Option UpPattern) (r : Reading) : Avail :=
  match r.values.map (availOf pattern) with
  | [] => .unknown
  | a :: rest => rest.foldl Avail.merge a

/-- The data points of a batch, and how it ended. -/
structure Batch (P : Type) where
  points : List P := []
  ending : Except Failure Unit := .ok ()

namespace Batch

variable {P : Type}

/-- The batch with a point before the others. -/
def cons (point : P) (b : Batch P) : Batch P :=
  { b with points := point :: b.points }

/-- A batch that failed before its first point. -/
def failed (f : Failure) : Batch P :=
  { ending := .error f }

end Batch

namespace Profile

open Conversation

variable {L σ : Type} [Location L]

/-- The data point of a metric, if its reading holds a number. -/
def metricPoint? (now : UInt64) (m : MetricInstance L) (r : Reading) : Option MetricPoint :=
  (metricValue r).map fun value =>
    ⟨m.key, now.toNat, value, m.type.detail.kind, m.type.detail.units⟩

/-- Read metrics in order until the endpoint is out of reach. -/
def readMetrics (p : Profile L σ) (now : UInt64) :
    List (MetricInstance L) → StateM (Exchange σ) (Batch MetricPoint)
  | [] => return {}
  | m :: rest => do
    match ← (read p.endpoint m.location).run with
    | .error b => return .failed (.cutShort b)
    | .ok (.error e) =>
      if e.isUnreachable then
        note .error ("Endpoint [" ++ p.name ++ "] became unreachable while collecting metric [" ++
          m.id ++ "]: " ++ e.message)
        return {}
      else
        note .warn ("Failed to collect metric [" ++ m.id ++ "] on endpoint [" ++ p.name ++ "]: " ++
          e.message)
        readMetrics p now rest
    | .ok (.ok reading) =>
      let batch ← readMetrics p now rest
      match metricPoint? now m reading with
      | some point => return batch.cons point
      | none => return batch

/-- Collect a batch of metrics. -/
def collectMetrics (p : Profile L σ) (now : UInt64) (ms : List (MetricInstance L)) :
    StateM (Exchange σ) (Batch MetricPoint) := do
  match ← (openReady p).run with
  | .error b => return .failed (.cutShort b)
  | .ok (.ok _) => readMetrics p now ms
  | .ok (.error (.access e)) =>
    if e.isUnreachable then
      note .error ("Endpoint [" ++ p.name ++ "] is unreachable, skipping [" ++
        toString ms.length ++ "] metrics: " ++ e.message)
      return {}
    else return .failed (.refused (.access e))
  | .ok (.error e) => return .failed (.refused e)

/-- The data point of an availability. -/
def availPoint (now : UInt64) (m : AvailInstance L) (value : Avail) : AvailPoint :=
  ⟨m.key, now.toNat, value⟩

/-- A point that says DOWN for each availability. -/
def allDown (now : UInt64) (ms : List (AvailInstance L)) : Batch AvailPoint :=
  { points := ms.map fun m => availPoint now m .down }

/-- Read availabilities in order; once the endpoint is out of reach the rest are DOWN. -/
def readAvails (p : Profile L σ) (now : UInt64) :
    List (AvailInstance L) → StateM (Exchange σ) (Batch AvailPoint)
  | [] => return {}
  | m :: rest => do
    match ← (read p.endpoint m.location).run with
    | .error b => return .failed (.cutShort b)
    | .ok (.error e) =>
      if e.isUnreachable then
        note .error ("Endpoint [" ++ p.name ++ "] became unreachable while collecting avail [" ++
          m.id ++ "]: " ++ e.message)
        return allDown now (m :: rest)
      else
        note .warn ("Failed to collect avail [" ++ m.id ++ "] on endpoint [" ++ p.name ++ "]: " ++
          e.message)
        let batch ← readAvails p now rest
        return batch.cons (availPoint now m .down)
    | .ok (.ok reading) =>
      let batch ← readAvails p now rest
      return batch.cons (availPoint now m (availValue m.type.detail.upPattern reading))

/-- Collect a batch of availabilities. -/
def collectAvails (p : Profile L σ) (now : UInt64) (ms : List (AvailInstance L)) :
    StateM (Exchange σ) (Batch AvailPoint) := do
  match ← (openReady p).run with
  | .error b => return .failed (.cutShort b)
  | .ok (.ok _) => readAvails p now ms
  | .ok (.error (.access e)) =>
    if e.isUnreachable then
      note .error ("Endpoint [" ++ p.name ++ "] is unreachable, reporting [" ++
        toString ms.length ++ "] avails DOWN: " ++ e.message)
      return allDown now ms
    else return .failed (.refused (.access e))
  | .ok (.error e) => return .failed (.refused e)

end Profile

end EndpointMonitor
