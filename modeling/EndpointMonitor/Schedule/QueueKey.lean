import Std.Data.TreeMap

/-!
# Keys of the collection queue

A measurement of a resource is in the queue at most once. Entries are ordered by their due
time; among entries due at the same time the resource decides, and then the measurement.
-/

namespace EndpointMonitor

/-- A measurement of a resource. -/
structure MeasurementKey where
  resource : String
  measurement : String
  deriving DecidableEq, Inhabited

namespace MeasurementKey

/-- Measurements are ordered by resource first. -/
instance : Ord MeasurementKey :=
  ⟨compareLex (compareOn MeasurementKey.resource) (compareOn MeasurementKey.measurement)⟩

instance : Std.TransOrd MeasurementKey :=
  inferInstanceAs (Std.TransCmp
    (compareLex (compareOn MeasurementKey.resource) (compareOn MeasurementKey.measurement)))

instance : Std.LawfulEqOrd MeasurementKey where
  eq_of_compare {a b} h := by
    obtain ⟨hr, hm⟩ := compareLex_eq_eq.1 (show compareLex _ _ a b = .eq from h)
    cases a
    cases b
    simp_all [compareOn]

end MeasurementKey

/-- The place of a measurement in the queue. -/
structure QueueKey where
  due : UInt64
  id : MeasurementKey
  deriving DecidableEq, Inhabited

namespace QueueKey

/-- Places are ordered by due time first. -/
instance : Ord QueueKey :=
  ⟨compareLex (compareOn QueueKey.due) (compareOn QueueKey.id)⟩

instance : Std.TransOrd QueueKey :=
  inferInstanceAs (Std.TransCmp
    (compareLex (compareOn QueueKey.due) (compareOn QueueKey.id)))

instance : Std.LawfulEqOrd QueueKey where
  eq_of_compare {a b} h := by
    obtain ⟨hd, hm⟩ := compareLex_eq_eq.1 (show compareLex _ _ a b = .eq from h)
    cases a
    cases b
    simp_all [compareOn]

end QueueKey

end EndpointMonitor
