import EndpointMonitor.Delivery.Payload

/-!
# Buffering between collection and storage

Producers put points into a bounded channel and never wait; a point that does not fit is
dropped and counted. One worker takes the points out in order, groups them into batches and
hands each batch to the storage. A shutdown request travels through the channel behind the
points before it; what is still queued behind it is stored as well. Every function here is one
indivisible step, so any interleaving of producers, worker and callers of shutdown is a
sequence of these steps.
-/

namespace EndpointMonitor

/-- What travels through the channel. -/
inductive Command (P : Type) where
  | store (point : P)
  | shutdown
  deriving Inhabited

/-- Where the worker stands between two steps. -/
inductive WorkerPhase where
  /-- Waiting for the next command. -/
  | receiving
  /-- Taking what is queued behind a shutdown request. -/
  | draining
  /-- Nothing was left in the channel; the last batch is handed over next. -/
  | closing
  /-- Finished; the channel is gone. -/
  | stopped
  deriving DecidableEq, Inhabited

/-- Sizes of a dispatcher. -/
structure DispatcherConfig where
  bufferSize : UInt64
  batchSize : UInt64
  flushMillis : UInt64
  storeWaitMillis : UInt64
  deriving DecidableEq, Inhabited

/-- The state of a dispatcher and its worker. -/
structure Dispatcher (P : Type) where
  config : DispatcherConfig
  channel : List (Command P) := []
  batch : Payload P := {}
  phase : WorkerPhase := .receiving
  /-- The payload of the storage call in progress. -/
  storing : Option (Payload P) := none
  /-- The payloads handed to the storage so far, the last one first. -/
  delivered : List (Payload P) := []
  /-- Whether a shutdown call has taken the worker over. -/
  takenOver : Bool := false
  stats : BufferStats := {}
  log : List LogLine := []
  deriving Inhabited

namespace Dispatcher

variable {P : Type} [DataPoint P]

/-- A dispatcher whose worker waits for its first command. -/
def start (config : DispatcherConfig) : Dispatcher P :=
  { config }

/-- The number of commands that fit into the channel. -/
def capacity (d : Dispatcher P) : Nat :=
  max 1 d.config.bufferSize.toNat

/-- Whether the channel takes another command. -/
def hasRoom (d : Dispatcher P) : Bool :=
  decide (d.channel.length < d.capacity)

/-- Drops are logged for the first of this many. -/
def dropLogEvery : UInt64 := 100

/-- Append a line to the log. -/
def note (d : Dispatcher P) (level : LogLevel) (message : String) : Dispatcher P :=
  { d with log := d.log ++ [⟨level, message⟩] }

/-- Offer a point to the channel, and say whether it was taken. -/
def dispatch (d : Dispatcher P) (point : P) : Dispatcher P × Bool :=
  if d.phase ≠ .stopped ∧ d.hasRoom then
    ({ d with channel := d.channel ++ [.store point] }, true)
  else
    let dropped := d.stats.dropped + 1
    let d := { d with stats := { d.stats with dropped := dropped } }
    if dropped % dropLogEvery = 1 then
      (d.note .warn ((DataPoint.buffer P).name ++ " buffer is full, [" ++ toString dropped ++
        "] data points dropped so far"), false)
    else (d, false)

/-- Hand the batch to the storage, unless it is empty. The call is in progress until it is
answered. -/
def flush (d : Dispatcher P) : Dispatcher P :=
  if d.batch.count = 0 then d
  else
    { d with batch := {}, storing := some d.batch, delivered := d.batch :: d.delivered }

/-- Add a point to the batch, and flush a batch that is large enough. -/
def takePoint (d : Dispatcher P) (point : P) : Dispatcher P :=
  let d := { d with batch := d.batch.add point }
  if d.config.batchSize.toNat ≤ d.batch.count then d.flush else d

/-- Take a received point; without a flush interval no batch is left waiting. -/
def receivePoint (d : Dispatcher P) (point : P) : Dispatcher P :=
  let d := d.takePoint point
  if d.config.flushMillis = 0 then d.flush else d

/-- One step of the worker, or `none` while it has nothing to do: the channel is empty, a
storage call is in progress, or it is finished. -/
def workerStep (d : Dispatcher P) : Option (Dispatcher P) :=
  if d.storing.isSome then none
  else
    match d.phase with
    | .stopped => none
    | .closing => some { d with phase := .stopped, channel := [] }
    | .receiving =>
      match d.channel with
      | [] => none
      | .store point :: rest => some (receivePoint { d with channel := rest } point)
      | .shutdown :: rest => some { d with channel := rest, phase := .draining }
    | .draining =>
      match d.channel with
      | .store point :: rest => some (takePoint { d with channel := rest } point)
      | .shutdown :: rest => some { d with channel := rest, phase := .closing }.flush
      | [] => some { d with phase := .closing }.flush

/-- The storage call in progress is answered. -/
def storeReturned (d : Dispatcher P) (answer : Except StorageError Unit) : Dispatcher P :=
  match d.storing with
  | none => d
  | some payload =>
    let d := { d with storing := none }
    match answer with
    | .ok _ =>
      { d with stats := { d.stats with stored := d.stats.stored + UInt64.ofNat payload.count } }
    | .error e =>
      { d with stats := { d.stats with storageFailures := d.stats.storageFailures + 1 } }.note
        .error ("Failed to store [" ++ toString payload.count ++ "] " ++
          (DataPoint.buffer P).name ++ " data points: " ++ e.message)

/-- The flush interval has passed for a worker that waits for a command. -/
def flushDue (d : Dispatcher P) : Dispatcher P :=
  if d.phase = .receiving ∧ d.storing.isNone then d.flush else d

/-- Every producer is gone: a worker that finds the channel empty stores its batch and ends. -/
def disconnect (d : Dispatcher P) : Dispatcher P :=
  if d.phase = .receiving ∧ d.storing.isNone ∧ d.channel.isEmpty then
    { d with phase := .closing }.flush
  else d

/-- What a step of a shutdown call finds. -/
inductive ShutdownStep where
  /-- The request is in the channel, or the worker is gone; now the worker has to finish. -/
  | requested
  /-- The channel is full; the call tries again until its time is up. -/
  | full
  deriving DecidableEq

/-- The start of a shutdown call: take the worker over, unless it has been taken. -/
def takeOver (d : Dispatcher P) : Dispatcher P × Bool :=
  if d.takenOver then (d, false) else ({ d with takenOver := true }, true)

/-- Put the shutdown request into the channel if there is room. -/
def requestShutdown (d : Dispatcher P) : Dispatcher P × ShutdownStep :=
  if d.phase = .stopped then (d, .requested)
  else if d.hasRoom then ({ d with channel := d.channel ++ [.shutdown] }, .requested)
  else (d, .full)

/-- Whether the worker has finished. -/
def isFinished (d : Dispatcher P) : Bool :=
  d.phase == .stopped

/-- The warning of a call whose request did not fit into the channel in time. -/
def noteUndrained (d : Dispatcher P) : Dispatcher P :=
  d.note .warn ((DataPoint.buffer P).name ++ " buffer did not drain before shutdown")

/-- The warning of a call whose worker did not finish in time. -/
def noteUnfinished (d : Dispatcher P) (timeout : String) : Dispatcher P :=
  d.note .warn ((DataPoint.buffer P).name ++ " dispatcher did not stop within " ++ timeout)

end Dispatcher

end EndpointMonitor
