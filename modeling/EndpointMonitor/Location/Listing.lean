import EndpointMonitor.Location.ManagementAddress
import EndpointMonitor.Location.ObjectName
import EndpointMonitor.Location.PlatformPath

/-!
# Listings of locations

The parts of a location as JSON, for whoever wants to look at them.
-/

namespace EndpointMonitor

/-- The listing of a segment. -/
def Segment.toJson (s : Segment) : Json :=
  .strs [s.key, s.value]

/-- The listing of a path. -/
def Path.toJson (path : List Segment) : Json :=
  .arr (path.map Segment.toJson)

/-- The listing of a management address. -/
def ManagementAddress.listing (a : ManagementAddress) : Json :=
  .mkObj [("segments", Path.toJson a.segments), ("root", .bool a.segments.isEmpty),
    ("len", .nat a.segments.length), ("address", a.toJson)]

/-- The listing of an object name. -/
def ObjectName.listing (n : ObjectName) : Json :=
  .mkObj [("domain", .str n.domain), ("properties", Path.toJson n.properties),
    ("empty", .bool n.isEmpty), ("pattern", .bool n.isPattern),
    ("name", .optStr (n.property? "name")), ("type", .optStr (n.property? "type"))]

/-- The listing of a platform path. -/
def PlatformPath.listing (p : PlatformPath) : Json :=
  .mkObj [("segments", Path.toJson p.segments), ("empty", .bool p.segments.isEmpty),
    ("last", (p.segments.getLast?.map Segment.toJson).getD .null)]

end EndpointMonitor
