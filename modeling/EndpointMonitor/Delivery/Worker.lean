import EndpointMonitor.Delivery.Buffering
import EndpointMonitor.Text.Duration

/-!
# Running the worker of a dispatcher

The worker runs as far as it can: until the channel is empty, it is finished, or a storage call
is held back. A shutdown call succeeds if that lets the worker finish, and otherwise gives up
when its time is over.
-/

namespace EndpointMonitor

/-- A storage: what it answers to its calls, counted from zero, and whether it holds them back. -/
structure Storage where
  answer : Nat → Except StorageError Unit
  isOpen : Bool

/-- An open storage that gives some answers in turn, over and over. -/
def Storage.cycling (answers : List (Except StorageError Unit)) : Storage :=
  ⟨fun k => answers.getD (k % answers.length) (.ok ()), true⟩

namespace Dispatcher

variable {P : Type} [DataPoint P]

/-- The steps the worker can take at most before it has to wait. -/
def stepBound (d : Dispatcher P) : Nat :=
  4 * d.channel.length + 8

/-- Let the storage call in progress return, if the storage lets it. -/
def answerStore (storage : Storage) (d : Dispatcher P) : Option (Dispatcher P) :=
  if d.storing.isSome && storage.isOpen then
    some (d.storeReturned (storage.answer (d.delivered.length - 1)))
  else none

/-- Run the worker for at most a number of steps. -/
def runWorker (storage : Storage) : Nat → Dispatcher P → Dispatcher P
  | 0, d => d
  | fuel + 1, d =>
    match answerStore storage d <|> workerStep d with
    | some next => runWorker storage fuel next
    | none => d

/-- Run the worker until it has to wait. -/
def settle (storage : Storage) (d : Dispatcher P) : Dispatcher P :=
  runWorker storage d.stepBound d

/-- Let the flush interval pass while nothing arrives. -/
def settleFlush (storage : Storage) (d : Dispatcher P) : Dispatcher P :=
  (d.settle storage).flushDue.settle storage

/-- Wait until a storage call is in progress, and say whether one is. -/
def awaitCall (storage : Storage) (d : Dispatcher P) : Dispatcher P × Bool :=
  let d := d.settleFlush storage
  (d, d.storing.isSome)

/-- Wait until a number of points is stored and no call is in progress, and say whether that
is so. -/
def awaitStored (storage : Storage) (n : UInt64) (d : Dispatcher P) : Dispatcher P × Bool :=
  let d := d.settle storage
  let d := if d.stats.stored < n then d.settleFlush storage else d
  (d, n ≤ d.stats.stored && d.storing.isNone)

/-- Offer points one after the other to a worker that runs as fast as it can, and count those
that are taken. -/
def dispatchAll (storage : Storage) (points : List P) (d : Dispatcher P) : Dispatcher P × Nat :=
  points.foldl (fun (d, accepted) point =>
    let (d, taken) := d.dispatch point
    (d.settle storage, if taken then accepted + 1 else accepted)) (d, 0)

/-- Ask the worker to finish and wait for it. -/
def shutdown (storage : Storage) (timeoutMillis : UInt64) (d : Dispatcher P) :
    Dispatcher P × Bool :=
  let (d, first) := d.takeOver
  if !first then (d, true)
  else
    match (d.settle storage).requestShutdown with
    | (d, .full) => (d.noteUndrained, false)
    | (d, _) =>
      let d := d.settle storage
      if d.isFinished then (d, true)
      else (d.noteUnfinished (Text.durationText timeoutMillis), false)

/-- The end of a dispatcher: what is left is stored once every producer is gone. -/
def release (storage : Storage) (d : Dispatcher P) : Dispatcher P :=
  (d.settle storage).disconnect.settle storage

/-- The orderly end of a dispatcher: it is shut down first. -/
def close (storage : Storage) (timeoutMillis : UInt64) (d : Dispatcher P) : Dispatcher P :=
  ((d.settle storage).shutdown storage timeoutMillis).1.release storage

end Dispatcher

end EndpointMonitor
