import EndpointMonitor.ResourceType.Basic

/-!
# Resources

A resource is a node that a scan found, with the measurements that exist at it. Two resources
are alike if an observer sees no difference between them.
-/

namespace EndpointMonitor

/-- A measurement of one resource. -/
structure MeasurementInstance (L D : Type) where
  id : String
  /-- The attribute to read. -/
  location : AttributeLocation L
  type : MeasurementType L D
  /-- The key of the data points, in place of the identifier. -/
  storageKey : Option String := none
  deriving Inhabited

/-- A metric of one resource. -/
abbrev MetricInstance (L : Type) := MeasurementInstance L MetricDetail

/-- An availability of one resource. -/
abbrev AvailInstance (L : Type) := MeasurementInstance L AvailDetail

/-- What an observer sees of a measurement. -/
structure InstanceView (L : Type) where
  id : String
  name : String
  location : AttributeLocation L
  storageKey : Option String
  interval : Interval
  deriving DecidableEq

namespace MeasurementInstance

variable {L D : Type}

/-- The key of the data points. -/
def key (m : MeasurementInstance L D) : String :=
  m.storageKey.getD m.id

/-- The time between two collections, in milliseconds. -/
def intervalMillis (m : MeasurementInstance L D) : UInt64 :=
  m.type.interval.millis

/-- What an observer sees of the measurement. -/
def view (m : MeasurementInstance L D) : InstanceView L :=
  ⟨m.id, m.type.name, m.location, m.storageKey, m.type.interval⟩

end MeasurementInstance

/-- A property of a resource; it has no value if it could not be read. -/
structure PropertyValue where
  name : String
  value : Option String
  deriving DecidableEq, Inhabited

/-- A node of an endpoint that is monitored. -/
structure Resource (L : Type) where
  id : String
  name : String
  location : L
  type : ResourceType L
  parent : Option String := none
  metrics : List (MetricInstance L) := []
  avails : List (AvailInstance L) := []
  config : List PropertyValue := []
  deriving Inhabited

/-- What an observer sees of a resource. -/
structure ResourceView (L : Type) where
  id : String
  name : String
  location : L
  typeName : String
  parent : Option String
  metrics : List (InstanceView L)
  avails : List (InstanceView L)
  config : List PropertyValue
  deriving DecidableEq

namespace Resource

variable {L : Type}

/-- Whether the resource stands for a node at the top. -/
def isRoot (r : Resource L) : Bool :=
  r.parent.isNone

/-- The value of the first property of a name. -/
def configValue (r : Resource L) (name : String) : Option String :=
  (r.config.find? fun c => c.name == name).bind (·.value)

/-- What an observer sees of the resource. -/
def view (r : Resource L) : ResourceView L :=
  { id := r.id
    name := r.name
    location := r.location
    typeName := r.type.name
    parent := r.parent
    metrics := r.metrics.map (·.view)
    avails := r.avails.map (·.view)
    config := r.config }

/-- Whether an observer sees no difference between two resources. -/
def isLike [Location L] (r s : Resource L) : Bool :=
  decide (r.view = s.view)

theorem isLike_iff [Location L] {r s : Resource L} : r.isLike s = true ↔ r.view = s.view := by
  simp [isLike]

@[simp] theorem isLike_self [Location L] (r : Resource L) : r.isLike r = true :=
  isLike_iff.2 rfl

end Resource

end EndpointMonitor
