import EndpointMonitor.ResourceType.Basic
import EndpointMonitor.Settings.Schema
import EndpointMonitor.Text.Blank

/-!
# Type sets of a configuration

The locations of a configured type set are texts; reading them against a protocol yields the
type set itself. The first text that cannot be read is the answer, and it names its owner.
-/

namespace EndpointMonitor

variable {L : Type} [Location L]

/-- Read a location that belongs to the named owner. -/
def readOwned (owner text : String) : Except ConfigError L :=
  (Location.read text).mapError fun fault =>
    .invalid (.badLocation owner (.invalidLocation fault))

/-- Read the attribute of a measurement or a property. -/
def readAttribute (owner location reference : String) :
    Except ConfigError (AttributeLocation L) :=
  if Text.isBlankText reference then .error (.invalid (.emptyAttribute owner))
  else (readOwned owner location).map fun node => .ofReference node reference

namespace MetricSetting

/-- The metric that is configured. -/
def toType (m : MetricSetting) : Except ConfigError (MetricType L) :=
  (readAttribute m.name m.location m.reference).map fun attr => {
    name := m.name
    location := attr
    interval := ⟨m.interval, m.timeUnits⟩
    enabled := m.enabled
    detail := ⟨m.metricType, m.units⟩ }

end MetricSetting

namespace AvailSetting

/-- The pattern of an availability, if it has one. -/
def upPattern (a : AvailSetting) : Except ConfigError (Option UpPattern) :=
  match a.upRegex with
  | none => .ok none
  | some pattern => (UpPattern.compile pattern).map some

/-- The availability that is configured. -/
def toType (a : AvailSetting) : Except ConfigError (AvailType L) := do
  let upPattern ← a.upPattern
  let attr ← readAttribute a.name a.location a.reference
  return {
    name := a.name
    location := attr
    interval := ⟨a.interval, a.timeUnits⟩
    enabled := a.enabled
    detail := ⟨upPattern⟩ }

end AvailSetting

namespace PropertySetting

/-- The property that is configured. -/
def toType (p : PropertySetting) : Except ConfigError (PropertyType L) :=
  (readAttribute p.name p.location p.reference).map fun attr => ⟨p.name, attr⟩

end PropertySetting

namespace ResourceTypeSetting

/-- The resource type that is configured. -/
def toType (t : ResourceTypeSetting) : Except ConfigError (ResourceType L) := do
  let location ← readOwned t.name t.location
  let metrics ← t.metrics.mapM MetricSetting.toType
  let avails ← t.avails.mapM AvailSetting.toType
  let properties ← t.properties.mapM PropertySetting.toType
  return {
    name := t.name
    location, metrics, avails, properties
    parents := t.parents
    nameTemplate := t.nameTemplate
    operations := t.operations }

end ResourceTypeSetting

namespace TypeSetSetting

/-- The type set that is configured. -/
def toTypeSet (s : TypeSetSetting) : Except ConfigError (TypeSet L) :=
  (s.resourceTypes.mapM ResourceTypeSetting.toType).map fun types => ⟨s.name, s.enabled, types⟩

end TypeSetSetting

end EndpointMonitor
