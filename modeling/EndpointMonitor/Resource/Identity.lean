import EndpointMonitor.Text.Split

/-!
# Identifiers of resources and measurements

A resource is identified by the feed, its endpoint and the text of its location, so the same
node always has the same identifier. A measurement adds its kind and name.
-/

namespace EndpointMonitor

/-- The parts a resource identifier is made of. -/
structure ResourceIdParts where
  feed : String
  endpoint : String
  location : String
  deriving DecidableEq

namespace ResourceIdParts

/-- The identifier made of the parts. -/
def join (p : ResourceIdParts) : String :=
  p.feed ++ "~" ++ p.endpoint ++ "~" ++ p.location

/-- The parts of an identifier; the location may hold further separators. -/
def split? (id : String) : Option ResourceIdParts := do
  let (feed, rest) ← Text.cutFirst '~' id
  let (endpoint, location) ← Text.cutFirst '~' rest
  if feed.isEmpty || endpoint.isEmpty then none else some ⟨feed, endpoint, location⟩

end ResourceIdParts

/-- The identifier of a metric of a resource. -/
def metricInstanceId (resource name : String) : String :=
  "MI~R~[" ++ resource ++ "]~MT~" ++ name

/-- The identifier of an availability of a resource. -/
def availInstanceId (resource name : String) : String :=
  "AI~R~[" ++ resource ++ "]~AT~" ++ name

end EndpointMonitor
