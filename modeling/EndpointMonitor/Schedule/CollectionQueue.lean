import EndpointMonitor.Resource.Graph
import EndpointMonitor.Schedule.QueueKey

/-!
# The collection queue

The queue holds the measurements of one kind of an endpoint, each with the time of its next
collection. Taking what is due puts every measurement back for its next interval, so the queue
never loses one. It has two indexes, the entries by their place and the due times by
measurement, and every operation keeps them in step.
-/

namespace EndpointMonitor

/-- A kind of measurement, told apart by its details. -/
class MeasurementKind (D : Type) where
  /-- The name of the kind in log lines. -/
  noun : String
  /-- The measurements of this kind that a resource has. -/
  instances {L : Type} : Resource L → List (MeasurementInstance L D)

instance : MeasurementKind MetricDetail where
  noun := "metric"
  instances := Resource.metrics

instance : MeasurementKind AvailDetail where
  noun := "avail"
  instances := Resource.avails

/-- A measurement that waits for its next collection. -/
structure QueueEntry (L D : Type) where
  resource : Resource L
  measurement : MeasurementInstance L D
  due : UInt64
  deriving Inhabited

/-- The time of a collection one interval after another time. -/
def nextDue (now interval : UInt64) : UInt64 :=
  roundUpToSecond (satAdd now interval)

namespace QueueEntry

variable {L D : Type}

/-- The measurement of an entry. -/
def id (e : QueueEntry L D) : MeasurementKey :=
  ⟨e.resource.id, e.measurement.id⟩

/-- The place of an entry in the queue. -/
def key (e : QueueEntry L D) : QueueKey :=
  ⟨e.due, e.id⟩

/-- The entry after a collection at the given time. -/
def again (now : UInt64) (e : QueueEntry L D) : QueueEntry L D :=
  { e with due := nextDue now e.measurement.intervalMillis }

/-- The entries of a resource, each due one interval after the given time. -/
def ofResource [MeasurementKind D] (now : UInt64) (r : Resource L) : List (QueueEntry L D) :=
  (MeasurementKind.instances r).map fun m => ⟨r, m, nextDue now m.intervalMillis⟩

end QueueEntry

/-- The measurements of one kind, ordered by their next collection. -/
structure CollectionQueue (L D : Type) where
  entries : Std.TreeMap QueueKey (QueueEntry L D) := ∅
  dueTimes : Std.TreeMap MeasurementKey UInt64 := ∅
  /-- Whether something was scheduled since the last look at the queue. -/
  woken : Bool := false
  deriving Inhabited

namespace CollectionQueue

variable {L D : Type}

/-- The number of measurements. -/
def size (q : CollectionQueue L D) : Nat :=
  q.entries.size

/-- The entries in the order of their places. -/
def toList (q : CollectionQueue L D) : List (QueueEntry L D) :=
  q.entries.toList.map (·.2)

/-- The due time of the first entry. -/
def nextDue? (q : CollectionQueue L D) : Option UInt64 :=
  q.entries.minKey?.map (·.due)

/-- Take a measurement out of its place. -/
def displace (q : CollectionQueue L D) (id : MeasurementKey) : CollectionQueue L D :=
  match q.dueTimes[id]? with
  | some due => { q with entries := q.entries.erase ⟨due, id⟩ }
  | none => q

/-- Put an entry into its place. -/
def put (q : CollectionQueue L D) (e : QueueEntry L D) : CollectionQueue L D :=
  { q with
    entries := q.entries.insert e.key e
    dueTimes := q.dueTimes.insert e.id e.due }

/-- Put an entry into its place; a measurement that is in the queue moves. -/
def scheduleOne (q : CollectionQueue L D) (e : QueueEntry L D) : CollectionQueue L D :=
  (q.displace e.id).put e

/-- Put entries into their places, one after the other. -/
def schedule (q : CollectionQueue L D) (es : List (QueueEntry L D)) : CollectionQueue L D :=
  if es.isEmpty then q else { es.foldl scheduleOne q with woken := true }

/-- Take out the measurements of some resources. -/
def unschedule (q : CollectionQueue L D) (resources : List String) : CollectionQueue L D :=
  { q with
    entries := q.entries.filter fun k _ => !resources.contains k.id.resource
    dueTimes := q.dueTimes.filter fun k _ => !resources.contains k.resource }

/-- Take out everything. -/
def clear (q : CollectionQueue L D) : CollectionQueue L D :=
  { q with entries := ∅, dueTimes := ∅ }

/-- Whether an entry is taken out at the given time: it is due then or before. At the last
moment of the clock nothing due just then is. -/
def isDue (now : UInt64) (k : QueueKey) : Bool :=
  k.due < satAdd now 1

/-- The entries that are due. -/
def dueEntries (q : CollectionQueue L D) (now : UInt64) : List (QueueEntry L D) :=
  (q.entries.filter fun k _ => isDue now k).toList.map (·.2)

/-- Take the entries that are due, and put each back for its next interval. -/
def pop (q : CollectionQueue L D) (now : UInt64) :
    CollectionQueue L D × List (QueueEntry L D) :=
  let due := q.dueEntries now
  let rest := { q with entries := q.entries.filter fun k _ => !isDue now k }
  ((due.map (·.again now)).foldl put rest, due)

/-- Follow a change of the resource graph. -/
def observe [MeasurementKind D] (now : UInt64) (q : CollectionQueue L D) :
    GraphEvent L → CollectionQueue L D
  | .added r => q.schedule (QueueEntry.ofResource now r)
  | .modified r => (q.unschedule [r.id]).schedule (QueueEntry.ofResource now r)
  | .removed r => q.unschedule [r.id]

end CollectionQueue

end EndpointMonitor
