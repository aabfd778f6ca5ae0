import EndpointMonitor.Resource.Identity
import EndpointMonitor.Resource.Basic
import EndpointMonitor.Json.Printer
import EndpointMonitor.Monitor.Profile

/-!
# Scans

A scan walks down the type graph: it asks for the nodes of a type below a parent, makes a
resource of each, and goes on with the child types below that. A query that fails is counted
and the rest of the scan goes on. The types may form a cycle, so a scan has a greatest depth.
-/

namespace EndpointMonitor

/-- What a scan has found: the resources, each before those below it, and the number of
queries that failed. -/
structure Found (L : Type) where
  resources : List (Resource L) := []
  errors : Nat := 0
  deriving Inhabited

namespace Found

variable {L : Type}

instance : Append (Found L) :=
  ⟨fun a b => ⟨a.resources ++ b.resources, a.errors + b.errors⟩⟩

/-- Everything that the parts of a scan have found, in order. -/
def join : List (Found L) → Found L
  | [] => {}
  | f :: rest => f ++ join rest

end Found

/-- The text of a property: its values without the null ones, texts as they are. -/
def propertyText (r : Reading) : Option String :=
  let texts := r.values.filterMap fun v =>
    match v with
    | .null => none
    | .str s => some s
    | other => some other.render
  if texts.isEmpty then none else some (",".intercalate texts)

namespace Profile

open Conversation

variable {L σ : Type} [Location L]

/-- Read a property of a resource. -/
def readProperty (p : Profile L σ) (r : Resource L) (property : PropertyType L) :
    Conversation σ PropertyValue := do
  match ← read p.endpoint (property.location.absolutize r.location) with
  | .ok reading => return ⟨property.name, propertyText reading⟩
  | .error e =>
    report .warn ("Failed to read config property [" ++ property.name ++ "] of resource [" ++
      r.id ++ "]: " ++ e.message)
    return ⟨property.name, none⟩

/-- The measurement of a type at a resource, if its attribute exists. -/
def instance? {D : Type} (p : Profile L σ) (r : Resource L) (id : String → String → String)
    (t : MeasurementType L D) : Conversation σ (Option (MeasurementInstance L D)) := do
  let location := t.location.absolutize r.location
  match ← hasAttribute p.endpoint location with
  | .ok true => return some { id := id r.id t.name, location, type := t }
  | .ok false => return none
  | .error e =>
    report .warn ("Failed to check attribute [" ++ location.text ++ "] of resource [" ++ r.id ++
      "]: " ++ e.message)
    return none

/-- The measurements of some types at a resource. -/
def instances {D : Type} (p : Profile L σ) (r : Resource L) (id : String → String → String)
    (ts : List (MeasurementType L D)) : Conversation σ (List (MeasurementInstance L D)) := do
  let found ← each (instance? p r id) (ts.filter (·.enabled))
  return found.filterMap fun m => m

/-- The resource at a node, without anything that has to be asked for. -/
def outline (p : Profile L σ) (parent : Option (Resource L)) (t : ResourceType L) (node : L) :
    Resource L where
  id := ResourceIdParts.join ⟨p.feed, p.name, Location.text node⟩
  name := Location.nameFrom t.nameTemplate node p.name
  location := node
  type := t
  parent := parent.map (·.id)

/-- The resource at a node. -/
def resourceAt (p : Profile L σ) (parent : Option (Resource L)) (t : ResourceType L) (node : L) :
    Conversation σ (Resource L) := do
  let r := p.outline parent t node
  let config ← each (readProperty p r) t.properties
  let metrics ← instances p r metricInstanceId t.metrics
  let avails ← instances p r availInstanceId t.avails
  return { r with config, metrics, avails }

/-- Where resources of a type are below a parent. -/
def queryFor (parent : Option (Resource L)) (t : ResourceType L) : L :=
  match parent with
  | some r => Location.absolutize r.location t.location
  | none => t.location

/-- Find the resources of a type below a parent, and what is below those. -/
def scanType (p : Profile L σ) :
    Nat → Option (Resource L) → ResourceType L → Conversation σ (Found L)
  | 0, _, _ => throw .tooDeep
  | depth + 1, parent, t => do
    let query := queryFor parent t
    match ← nodes p.endpoint query with
    | .error e =>
      report .warn ("Failed to discover resources of type [" ++ t.name ++ "] at [" ++
        Location.text query ++ "] on endpoint [" ++ p.name ++ "]: " ++ e.message)
      return { errors := 1 }
    | .ok found =>
      let parts ← each (fun node => do
        let r ← resourceAt p parent t node
        let below ← each (scanType p depth (some r)) (p.types.childTypes t.name)
        return Found.join ({ resources := [r] } :: below)) found
      return Found.join parts

/-- Find everything, down to a greatest depth. -/
def scan (p : Profile L σ) (depth : Nat) : Conversation σ (Found L) := do
  let parts ← each (scanType p depth none) p.types.rootTypes
  return Found.join parts

/-- Find everything on an endpoint that is ready. -/
def scanReady (p : Profile L σ) (depth : Nat) :
    Conversation σ (Except MonitorError (Found L)) := do
  match ← openReady p with
  | .error e => return .error e
  | .ok _ => return .ok (← scan p depth)

end Profile

end EndpointMonitor
