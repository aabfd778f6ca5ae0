import EndpointMonitor.Number.Saturating

/-!
# Tasks in time

Tasks run one after the other and take no time. While one can go on the time stands still, and
when all of them wait it jumps to the first instant at which one of them goes on.
-/

namespace EndpointMonitor

/-- How tasks with states `κ` work on a world `ω`. -/
structure TaskRules (κ ω : Type) where
  /-- The instant at which a task goes on; without one it goes on at once. -/
  wake : ω → κ → Option Nat
  /-- Let a task go on until it waits, at an instant and a reading of the clock. A task that
  has ended has no state. -/
  step : Nat → UInt64 → κ → ω → Option κ × ω

/-- Tasks and their world at an instant, in milliseconds from the start. -/
structure Timeline (κ ω : Type) where
  /-- The reading of the clock at the start. -/
  origin : UInt64
  elapsed : Nat := 0
  tasks : List κ := []
  world : ω

namespace Timeline

variable {κ ω : Type}

/-- The reading of the clock. -/
def now (t : Timeline κ ω) : UInt64 :=
  t.origin + UInt64.ofNat t.elapsed

/-- Let the clock jump while the tasks wait for the same instants as before. -/
def skip (t : Timeline κ ω) (millis : UInt64) : Timeline κ ω :=
  { t with origin := t.origin + millis }

/-- Let every task that can go on do so once. -/
def passTasks (rules : TaskRules κ ω) (elapsed : Nat) (now : UInt64) :
    List κ → ω → List κ × ω
  | [], w => ([], w)
  | task :: rest, w =>
    if (rules.wake w task).getD elapsed ≤ elapsed then
      let (next, w) := rules.step elapsed now task w
      let (rest, w) := passTasks rules elapsed now rest w
      (next.toList ++ rest, w)
    else
      let (rest, w) := passTasks rules elapsed now rest w
      (task :: rest, w)

/-- Let every task that can go on do so once. -/
def pass (rules : TaskRules κ ω) (t : Timeline κ ω) : Timeline κ ω :=
  let (tasks, world) := passTasks rules t.elapsed t.now t.tasks t.world
  { t with tasks, world }

/-- The first instant at which a task goes on. -/
def nextWake? (rules : TaskRules κ ω) (t : Timeline κ ω) : Option Nat :=
  (t.tasks.map fun task => max t.elapsed ((rules.wake t.world task).getD 0)).min?

/-- Let tasks go on before an instant, in at most a number of rounds. -/
def runBefore (rules : TaskRules κ ω) (limit : Nat) : Nat → Timeline κ ω → Timeline κ ω
  | 0, t => t
  | rounds + 1, t =>
    match t.nextWake? rules with
    | none => t
    | some wake =>
      if wake < limit then runBefore rules limit rounds (pass rules { t with elapsed := wake })
      else t

/-- The rounds that tasks may need for a millisecond. -/
def roundsPerMilli : Nat := 8

/-- Let the time pass up to an instant. -/
def advanceTo (rules : TaskRules κ ω) (limit : Nat) (t : Timeline κ ω) : Timeline κ ω :=
  if limit ≤ t.elapsed then t
  else
    { runBefore rules limit (roundsPerMilli * (limit - t.elapsed)) t with elapsed := limit }

end Timeline

end EndpointMonitor
