import EndpointMonitor.Resource.Graph
import EndpointMonitor.ResourceType.Graph

/-!
# Listings of types and resources

The types and the resources of an endpoint as JSON, for whoever wants to look at them.
-/

namespace EndpointMonitor

variable {L D : Type} [Location L]

/-- What the listings of all measurement types have. -/
def MeasurementType.fields (m : MeasurementType L D) : List (String × Json) :=
  [("id", .str m.name), ("name", .str m.name), ("at", .str m.location.text),
    ("interval", .str m.interval.text), ("millis", .word m.interval.millis),
    ("enabled", .bool m.enabled)]

/-- The listing of a metric type. -/
def MetricType.toJson (m : MetricType L) : Json :=
  .mkObj (m.fields ++ [("kind", .str m.detail.kind.name), ("units", .str m.detail.units)])

/-- The listing of an availability type. -/
def AvailType.toJson (a : AvailType L) : Json :=
  .mkObj (a.fields ++ [("up", .optStr (a.detail.upPattern.map UpPattern.text))])

/-- The listing of a resource type, with its place in the type graph. -/
def TypeGraph.typeJson (g : TypeGraph L) (t : ResourceType L) : Json :=
  .mkObj [("id", .str t.name), ("name", .str t.name), ("location", .str (Location.text t.location)),
    ("parents", .strs t.parents), ("template", .str t.nameTemplate), ("root", .bool t.isRoot),
    ("metrics", .arr (t.metrics.map MetricType.toJson)),
    ("avails", .arr (t.avails.map AvailType.toJson)),
    ("config", .arr (t.properties.map fun p => .strs [p.name, p.location.text])),
    ("operations", .strs t.operations), ("enabled", .nat t.enabledCount),
    ("children", .strs ((g.childTypes t.name).map (·.name)))]

/-- The listing of a measurement of a resource. -/
def MeasurementInstance.toJson (m : MeasurementInstance L D) : Json :=
  .arr [.str m.id, .str m.type.name, .str m.location.text, .str m.key, .word m.intervalMillis]

/-- The listing of a resource. -/
def Resource.toJson (r : Resource L) : Json :=
  .mkObj [("id", .str r.id), ("name", .str r.name), ("location", .str (Location.text r.location)),
    ("type", .str r.type.name), ("parent", .optStr r.parent), ("root", .bool r.isRoot),
    ("config", .arr (r.config.map fun c => .arr [.str c.name, .optStr c.value])),
    ("metrics", .arr (r.metrics.map MeasurementInstance.toJson)),
    ("avails", .arr (r.avails.map MeasurementInstance.toJson))]

/-- The listing of the identifiers of resources. -/
def Resource.idListing (rs : List (Resource L)) : Json :=
  .strs (rs.map (·.id))

/-- The listing of a change of the resources. -/
def GraphEvent.toJson : GraphEvent L → Json
  | .added r => .strs ["added", r.id]
  | .modified r => .strs ["modified", r.id]
  | .removed r => .strs ["removed", r.id]

/-- The name of what adding a resource has done. -/
def AddOutcome.name : AddOutcome → String
  | .added => "Added"
  | .modified => "Modified"
  | .unchanged => "Unchanged"

end EndpointMonitor
