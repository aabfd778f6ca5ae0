import EndpointMonitor.ResourceType.Interval
import EndpointMonitor.Location.Basic
import EndpointMonitor.Settings.UpPattern
import EndpointMonitor.Delivery.DataPoint

/-!
# Types of resources and measurements

A resource type says where its resources are found below a parent resource, how they are
named, and what is measured at them. Types come in named sets that are switched on and off
together.
-/

namespace EndpointMonitor

/-- What is particular to a metric. -/
structure MetricDetail where
  kind : MetricKind
  units : String
  deriving Inhabited, DecidableEq

/-- What is particular to an availability: the pattern of a text that counts as UP. -/
structure AvailDetail where
  upPattern : Option UpPattern := none
  deriving Inhabited

/-- A measurement that every resource of a type has. -/
structure MeasurementType (L D : Type) where
  name : String
  /-- The attribute to read, relative to the resource. -/
  location : AttributeLocation L
  interval : Interval
  enabled : Bool := true
  detail : D
  deriving Inhabited

/-- A metric of a resource type. -/
abbrev MetricType (L : Type) := MeasurementType L MetricDetail

/-- An availability of a resource type. -/
abbrev AvailType (L : Type) := MeasurementType L AvailDetail

/-- A property of a resource that a scan reads. -/
structure PropertyType (L : Type) where
  name : String
  /-- The attribute to read, relative to the resource. -/
  location : AttributeLocation L
  deriving Inhabited

/-- A type of resources. -/
structure ResourceType (L : Type) where
  name : String
  /-- Where resources are found, relative to a parent resource. -/
  location : L
  /-- The types whose resources may contain resources of this type. -/
  parents : List String := []
  nameTemplate : String
  metrics : List (MetricType L) := []
  avails : List (AvailType L) := []
  properties : List (PropertyType L) := []
  /-- The operations the type declares; none is ever executed. -/
  operations : List String := []
  deriving Inhabited

/-- A named group of resource types. -/
structure TypeSet (L : Type) where
  name : String
  enabled : Bool := true
  types : List (ResourceType L)
  deriving Inhabited

namespace ResourceType

variable {L : Type}

/-- Whether resources of the type need no parent. -/
def isRoot (t : ResourceType L) : Bool :=
  t.parents.isEmpty

/-- The number of measurements that are collected from each resource of the type. -/
def enabledCount (t : ResourceType L) : Nat :=
  t.metrics.countP (·.enabled) + t.avails.countP (·.enabled)

end ResourceType

end EndpointMonitor
