import EndpointMonitor.Schedule.CollectionQueue
import EndpointMonitor.Schedule.Timeline

/-!
# Collection loops

A loop looks at its queue and sleeps until the first entry is due, though never longer than a
limit; then it takes what is due. It looks again whenever something is scheduled.
-/

namespace EndpointMonitor

/-- Where a collection loop stands. -/
inductive LoopPhase where
  /-- About to look at the queue. -/
  | looking
  /-- Asleep until an instant, unless something is scheduled before. -/
  | sleeping (wake : Nat)
  deriving DecidableEq, Inhabited

/-- A loop with its queue after a step, and the batch that was taken. -/
structure LoopTurn (L D : Type) where
  phase : LoopPhase
  queue : CollectionQueue L D
  batch : List (QueueEntry L D) := []
  deriving Inhabited

/-- Collections that start this much later than they are due are late. -/
def lateAfter : UInt64 := 1000

/-- The number of entries of a batch whose collection starts late. -/
def lateCount {L D : Type} (now : UInt64) (batch : List (QueueEntry L D)) : Nat :=
  batch.countP fun e => lateAfter < satSub now e.due

namespace CollectionQueue

variable {L D : Type}

/-- How long a loop sleeps when it looks at the queue. -/
def waitMillis (poll now : UInt64) (q : CollectionQueue L D) : UInt64 :=
  match q.nextDue? with
  | none => poll
  | some due => min (satSub due now) poll

end CollectionQueue

namespace LoopPhase

variable {L D : Type}

/-- Take what is due. -/
def collect (now : UInt64) (q : CollectionQueue L D) : LoopTurn L D :=
  let (queue, batch) := q.pop now
  ⟨.looking, queue, batch⟩

/-- Look at the queue: go to sleep, or take what is due. -/
def look (poll now : UInt64) (elapsed : Nat) (q : CollectionQueue L D) : LoopTurn L D :=
  let wait := q.waitMillis poll now
  if wait = 0 then collect now q
  else ⟨.sleeping (elapsed + wait.toNat), { q with woken := false }, []⟩

/-- Go on: a loop that has slept long enough takes what is due, any other looks at the queue. -/
def step (poll now : UInt64) (elapsed : Nat) (phase : LoopPhase) (q : CollectionQueue L D) :
    LoopTurn L D :=
  match phase with
  | .looking => look poll now elapsed q
  | .sleeping wake => if wake ≤ elapsed then collect now q else look poll now elapsed q

/-- The instant at which a loop goes on; without one it goes on at once. -/
def wake (q : CollectionQueue L D) : LoopPhase → Option Nat
  | .looking => none
  | .sleeping instant => if q.woken then none else some instant

end LoopPhase

/-- A queue with the batches that were taken from it, and when. -/
structure Collector (L D : Type) where
  queue : CollectionQueue L D
  batches : List (UInt64 × List (QueueEntry L D)) := []
  /-- The number of collections that started late. -/
  late : Nat := 0
  deriving Inhabited

namespace Collector

variable {L D : Type}

/-- Note a batch unless it is empty. -/
def take (c : Collector L D) (now : UInt64) (batch : List (QueueEntry L D)) : Collector L D :=
  if batch.isEmpty then c
  else { c with batches := c.batches ++ [(now, batch)], late := c.late + lateCount now batch }

/-- How a loop works on its queue when the collection of a batch takes no time. However it
ends, the loop goes on. -/
def rules (poll : UInt64) : TaskRules LoopPhase (Collector L D) where
  wake c := LoopPhase.wake c.queue
  step elapsed now phase c :=
    let turn := phase.step poll now elapsed c.queue
    (some turn.phase, { c with queue := turn.queue }.take now turn.batch)

end Collector

end EndpointMonitor
