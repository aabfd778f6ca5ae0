import EndpointMonitor.Number.Saturating

/-!
# Collection intervals

An interval keeps its value and its unit as they were configured. Its length in milliseconds
saturates, and so does rounding a time up to a full second.
-/

namespace EndpointMonitor

/-- The unit of a collection interval. -/
inductive TimeUnit where
  | milliseconds
  | seconds
  | minutes
  | hours
  deriving DecidableEq, Inhabited

namespace TimeUnit

/-- The milliseconds in one unit. -/
def millis : TimeUnit → UInt64
  | .milliseconds => 1
  | .seconds => 1000
  | .minutes => 60000
  | .hours => 3600000

/-- The abbreviation written after a value. -/
def suffix : TimeUnit → String
  | .milliseconds => "ms"
  | .seconds => "s"
  | .minutes => "m"
  | .hours => "h"

/-- The name of a unit in a configuration. -/
def name : TimeUnit → String
  | .milliseconds => "milliseconds"
  | .seconds => "seconds"
  | .minutes => "minutes"
  | .hours => "hours"

/-- The unit of the given name. -/
def ofName? : String → Option TimeUnit
  | "milliseconds" => some .milliseconds
  | "seconds" => some .seconds
  | "minutes" => some .minutes
  | "hours" => some .hours
  | _ => none

@[simp] theorem ofName?_name (u : TimeUnit) : ofName? u.name = some u := by
  cases u <;> rfl

end TimeUnit

/-- How often a measurement is collected. -/
structure Interval where
  value : UInt64
  unit : TimeUnit
  deriving DecidableEq, Inhabited

namespace Interval

/-- The interval of a number of seconds. -/
def seconds (value : UInt64) : Interval :=
  ⟨value, .seconds⟩

/-- The length in milliseconds. -/
def millis (i : Interval) : UInt64 :=
  satMul i.value i.unit.millis

/-- The value with the abbreviation of its unit. -/
def text (i : Interval) : String :=
  toString i.value ++ i.unit.suffix

end Interval

/-- The first full second at or after a time in milliseconds. -/
def roundUpToSecond (t : UInt64) : UInt64 :=
  clampWord ((t.toNat + 999) / 1000 * 1000)

theorem toNat_roundUpToSecond (t : UInt64) :
    (roundUpToSecond t).toNat = min ((t.toNat + 999) / 1000 * 1000) 18446744073709551615 :=
  toNat_clampWord _

theorem le_roundUpToSecond (t : UInt64) : t.toNat ≤ (roundUpToSecond t).toNat := by
  have := toNat_roundUpToSecond t
  have := t.toNat_lt
  omega

end EndpointMonitor
