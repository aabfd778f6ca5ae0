import EndpointMonitor.ResourceType.Basic
import EndpointMonitor.Location.PlatformPath

/-!
# The built-in types of the host

The host is a fixed tree: an operating system with its file stores, its memory and its
processors. Its types form a type set like any other, so the host goes through the same
scans and collections as a remote endpoint.
-/

namespace EndpointMonitor

namespace HostTypes

/-- The name of the type set. -/
def setName : String := "Platform"

/-- The name of the root type. -/
def operatingSystem : String := "Operating System"

/-- The path of any resource of a type, relative to its parent. -/
def anyOf (type : String) : PlatformPath :=
  ⟨[⟨type, Segment.wildcard⟩]⟩

/-- A gauge that is read from the resource itself. -/
def gauge (name units : String) (interval : Interval) : MetricType PlatformPath where
  name := name
  location := .ofReference ⟨[]⟩ name
  interval := interval
  detail := ⟨.gauge, units⟩

/-- A type of resources below the operating system. -/
def childType (name template : String) (metrics : List (MetricType PlatformPath)) :
    ResourceType PlatformPath where
  name := name
  location := anyOf name
  parents := [operatingSystem]
  nameTemplate := template
  metrics := metrics

/-- The type of the operating system. -/
def rootType (interval : Interval) : ResourceType PlatformPath where
  name := operatingSystem
  location := anyOf operatingSystem
  nameTemplate := "%_ManagedServerName% Operating System [%s]"
  metrics := [gauge "System CPU Load" "percentage" interval,
    gauge "System Load Average" "none" interval, gauge "Process Count" "none" interval]
  properties := [⟨"Machine Id", .ofReference ⟨[]⟩ "Machine Id"⟩]

/-- The types of the host, with every metric collected at one interval. -/
def typeSet (interval : Interval) : TypeSet PlatformPath where
  name := setName
  types := [
    rootType interval,
    childType "File Store" "File Store [%s]"
      [gauge "Usable Space" "bytes" interval, gauge "Total Space" "bytes" interval],
    childType "Memory" "Memory"
      [gauge "Available Memory" "bytes" interval, gauge "Total Memory" "bytes" interval],
    childType "Processor" "Processor [%s]" [gauge "CPU Usage" "percentage" interval]]

end HostTypes

end EndpointMonitor
