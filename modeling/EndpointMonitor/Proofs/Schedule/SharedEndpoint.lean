import EndpointMonitor.Proofs.Monitor.SharedService
import EndpointMonitor.Proofs.Schedule.Remnants
import EndpointMonitor.Schedule.EndpointTask

/-!
# Starting and stopping an endpoint that is shared

A start spawns two collection loops and a task that scans, and then stores their handles. A stop
signals the tasks, takes the stored handles, waits for each of the tasks or aborts it, removes
the resources, and clears one queue after the other. The task that scans has each scan done by
another thread. An aborted task is gone at once, unless it is just about to call a discovery: then
it may still do so. A discovery that was called goes on to its end.
-/

namespace EndpointMonitor

open ResourceGraph

variable {L σ : Type}

section Few

/-- What is there after an update is new or was there before. -/
theorem eq_some_of_update {α : Type} {f : ℕ → Option α} {i k : ℕ} {a : Option α} {b : α}
    (h : Function.update f i a k = some b) : k = i ∧ a = some b ∨ f k = some b := by
  by_cases hki : k = i
  · rw [hki, Function.update_self] at h
    exact .inl ⟨hki, h⟩
  · rw [Function.update_of_ne hki] at h
    exact .inr h

/-- Only finitely many have come so far. -/
def Few {α : Type} (f : ℕ → Option α) : Prop :=
  ∃ bound, ∀ k, bound ≤ k → f k = none

variable {α : Type} {f : ℕ → Option α}

theorem Few.update (h : Few f) (k : ℕ) (a : Option α) : Few (Function.update f k a) := by
  obtain ⟨bound, hbound⟩ := h
  refine ⟨max bound (k + 1), fun j hj => ?_⟩
  rw [Function.update_of_ne (by omega), hbound j (by omega)]

/-- There is always room for one more. -/
theorem Few.exists_new (h : Few f) : ∃ k, f k = none :=
  h.imp fun bound hbound => hbound bound le_rfl

end Few

/-- Who has the handle of a task. -/
inductive Handle where
  /-- The start that has spawned the task and not yet stored its handle. -/
  | start (m : ℕ)
  | stored
  /-- The stop that waits for the task. -/
  | stop (n : ℕ)
  /-- The task was aborted. -/
  | nobody
  deriving DecidableEq

/-- What a task is about to do. -/
inductive TaskPhase where
  /-- A collection loop takes what is due whenever it goes on. -/
  | collects
  /-- The task that scans is about to call a discovery. -/
  | due
  | awaits (k : ℕ)
  | sleeps
  deriving DecidableEq

/-- A task and the holder of its handle. -/
structure OwnedTask where
  phase : TaskPhase
  handle : Handle

/-- How far a start has come. -/
inductive StartPhase where
  | begun
  | spawned
  | done

/-- How far a stop has come. -/
inductive StopPhase where
  | signalled
  /-- The stop has taken the stored handles. -/
  | waiting
  /-- The resources are removed, and the queues are following. -/
  | dropping
  | dropped
  | metricsCleared
  | availsCleared
  | returned

/-- Where a stop was before, unless it has only begun. -/
def StopPhase.before : StopPhase → Option StopPhase
  | .signalled => none
  | .waiting => some .signalled
  | .dropping => some .waiting
  | .dropped => some .dropping
  | .metricsCleared => some .dropped
  | .availsCleared => some .metricsCleared
  | .returned => some .availsCleared

/-- An endpoint with everyone who works on it. -/
structure SharedEndpoint (L : Type) where
  service : SharedService L := {}
  /-- The signal to the tasks. -/
  stopping : Bool := false
  tasks : ℕ → Option OwnedTask := fun _ => none
  starts : ℕ → Option StartPhase := fun _ => none
  stops : ℕ → Option StopPhase := fun _ => none

/-- A step of a shared endpoint. -/
inductive EndpointAct (L σ : Type) where
  | start (m : ℕ) (phase : StartPhase)
  | stop (n : ℕ) (phase : StopPhase)
  /-- A task goes on, or ends. -/
  | task (t : ℕ) (phase : Option TaskPhase)
  | abort (t : ℕ)
  | service (act : ServiceAct L σ)

/-- Whether an act is not the beginning of a start. -/
def EndpointAct.Unstarted : EndpointAct L σ → Prop
  | .start _ .begun => False
  | _ => True

namespace SharedEndpoint

/-- The endpoint after a task has gone on or has ended. -/
def moved (s : SharedEndpoint L) (t : ℕ) (task : Option OwnedTask) : SharedEndpoint L :=
  { s with tasks := Function.update s.tasks t task }

/-- The endpoint after a start has gone on. -/
def starting (s : SharedEndpoint L) (m : ℕ) (phase : StartPhase) : SharedEndpoint L :=
  { s with starts := Function.update s.starts m (some phase) }

/-- The endpoint after a stop has gone on. -/
def ending (s : SharedEndpoint L) (n : ℕ) (phase : StopPhase) : SharedEndpoint L :=
  { s with stops := Function.update s.stops n (some phase) }

/-- Give all handles that one holds to another. -/
def handOver (holder receiver : Handle) (tasks : ℕ → Option OwnedTask) : ℕ → Option OwnedTask :=
  fun t => (tasks t).map fun x => if x.handle = holder then { x with handle := receiver } else x

/-- The endpoint with other resources and queues. -/
def withMonitor (s : SharedEndpoint L) (monitor : SharedMonitor L) : SharedEndpoint L :=
  { s with service := { s.service with monitor } }

/-- Nothing is stored or scheduled. -/
def Empty (s : SharedEndpoint L) : Prop :=
  s.service.monitor.graph.size = 0 ∧ s.service.monitor.metrics.queue.toList = [] ∧
    s.service.monitor.avails.queue.toList = []

variable [Location L]

/-- What a step does. A stop removes the resources when it has none of the tasks left that it
has to wait for, and keeps everyone else from them until the queues have followed. -/
inductive Step (p : Profile L σ) (period : Option UInt64) :
    SharedEndpoint L → EndpointAct L σ → SharedEndpoint L → Prop
  | begin {s m} (new : s.starts m = none) :
      Step p period s (.start m .begun) { s.starting m .begun with stopping := false }
  | spawn {s m i j k} (begun : s.starts m = some .begun) (distinct : [i, j, k].Nodup)
      (new : ∀ t ∈ [i, j, k], s.tasks t = none) :
      Step p period s (.start m .spawned)
        (((s.starting m .spawned).moved i (some ⟨.collects, .start m⟩)).moved j
          (some ⟨.collects, .start m⟩) |>.moved k (some ⟨.due, .start m⟩))
  | store {s m} (spawned : s.starts m = some .spawned) :
      Step p period s (.start m .done)
        { s.starting m .done with tasks := handOver (.start m) .stored s.tasks }
  | call {s t k h} (due : s.tasks t = some ⟨.due, h⟩) (new : s.service.calls k = none)
      (held : h ≠ .nobody) : Step p period s (.task t (some (.awaits k)))
        { s.moved t (some ⟨.awaits k, h⟩) with service := s.service.goes k .called }
  | sleep {s t k h result wait} (awaits : s.tasks t = some ⟨.awaits k, h⟩)
      (ended : s.service.calls k = some (.ended result))
      (again : nextScanMillis period result = some wait) :
      Step p period s (.task t (some .sleeps)) (s.moved t (some ⟨.sleeps, h⟩))
  | finish {s t k h result} (awaits : s.tasks t = some ⟨.awaits k, h⟩)
      (ended : s.service.calls k = some (.ended result))
      (once : nextScanMillis period result = none) :
      Step p period s (.task t none) (s.moved t none)
  | wake {s t h} (sleeps : s.tasks t = some ⟨.sleeps, h⟩) :
      Step p period s (.task t (some .due)) (s.moved t (some ⟨.due, h⟩))
  | quit {s t x} (task : s.tasks t = some x) (idle : x.phase = .collects ∨ x.phase = .sleeps)
      (stopping : s.stopping = true) : Step p period s (.task t none) (s.moved t none)
  | service {s act service} (step : SharedService.Going p s.service act service) :
      Step p period s (.service act) { s with service }
  | signal {s n} (new : s.stops n = none) :
      Step p period s (.stop n .signalled) { s.ending n .signalled with stopping := true }
  | take {s n} (signalled : s.stops n = some .signalled) :
      Step p period s (.stop n .waiting)
        { s.ending n .waiting with tasks := handOver .stored (.stop n) s.tasks }
  | abort {s n t x} (waiting : s.stops n = some .waiting) (task : s.tasks t = some x)
      (held : x.handle = .stop n) : Step p period s (.abort t) (s.moved t none)
  | outlast {s n t} (waiting : s.stops n = some .waiting)
      (due : s.tasks t = some ⟨.due, .stop n⟩) :
      Step p period s (.abort t) (s.moved t (some ⟨.due, .nobody⟩))
  | callLast {s t k} (due : s.tasks t = some ⟨.due, .nobody⟩) (new : s.service.calls k = none) :
      Step p period s (.task t none)
        { s.moved t none with service := s.service.goes k .called }
  | drop {s n} (waiting : s.stops n = some .waiting)
      (waited : ∀ t x, s.tasks t = some x → x.handle ≠ .stop n) (idle : s.service.monitor.Idle) :
      Step p period s (.stop n .dropping)
        ((s.ending n .dropping).withMonitor (s.service.monitor.follow
          ((ServiceCall.clear (L := L) (σ := σ)).change p s.service.monitor.graph)))
  | release {s n} (dropping : s.stops n = some .dropping) (idle : s.service.monitor.Idle) :
      Step p period s (.stop n .dropped) (s.ending n .dropped)
  | clearMetrics {s n metrics} (dropped : s.stops n = some .dropped)
      (cleared : metrics = { s.service.monitor.metrics with
        queue := s.service.monitor.metrics.queue.clear }) :
      Step p period s (.stop n .metricsCleared)
        ((s.ending n .metricsCleared).withMonitor { s.service.monitor with metrics })
  | clearAvails {s n avails} (metricsCleared : s.stops n = some .metricsCleared)
      (cleared : avails = { s.service.monitor.avails with
        queue := s.service.monitor.avails.queue.clear }) :
      Step p period s (.stop n .availsCleared)
        ((s.ending n .availsCleared).withMonitor { s.service.monitor with avails })
  | leave {s n} (availsCleared : s.stops n = some .availsCleared) :
      Step p period s (.stop n .returned) (s.ending n .returned)

theorem Step.stops_eq {p : Profile L σ} {period : Option UInt64} {s s' : SharedEndpoint L} {n : ℕ}
    {phase : StopPhase} (step : Step p period s (.stop n phase) s') :
    s.stops n = phase.before ∧ s'.stops n = some phase := by
  cases step with
  | signal before => exact ⟨before, Function.update_self ..⟩
  | take before => exact ⟨before, Function.update_self ..⟩
  | drop before => exact ⟨before, Function.update_self ..⟩
  | release before => exact ⟨before, Function.update_self ..⟩
  | clearMetrics before => exact ⟨before, Function.update_self ..⟩
  | clearAvails before => exact ⟨before, Function.update_self ..⟩
  | leave before => exact ⟨before, Function.update_self ..⟩

/-- A stop is where it was unless it goes on itself. -/
theorem Step.stops_of_ne {p : Profile L σ} {period : Option UInt64} {s s' : SharedEndpoint L}
    {act : EndpointAct L σ} (step : Step p period s act s') {n : ℕ}
    (hn : ∀ phase, act ≠ .stop n phase) : s'.stops n = s.stops n := by
  cases act with
  | stop i phase =>
      have hne : n ≠ i := by
        rintro rfl
        exact hn phase rfl
      cases step <;> exact Function.update_of_ne hne ..
  | _ => cases step <;> rfl

/-- A step in which no start begins. -/
def Unstarted (p : Profile L σ) (period : Option UInt64) (s : SharedEndpoint L)
    (act : EndpointAct L σ) (s' : SharedEndpoint L) : Prop :=
  Step p period s act s' ∧ act.Unstarted

/-- Once a stop has returned the endpoint stays empty until the next start begins. -/
def StaysEmpty (p : Profile L σ) (period : Option UInt64) (n : ℕ) (s : SharedEndpoint L) : Prop :=
  ∀ acts s', Runs (Unstarted p period) s acts s' → .stop n .returned ∈ acts → s'.Empty

end SharedEndpoint

/-! ### What is true at all times -/

section Tidy

/-- The links are in order, and the queues hold stored measurements only. -/
structure SharedMonitor.Tidy (s : SharedMonitor L) : Prop where
  linked : Linked s.graph
  metrics : s.metrics.Within s.graph.get?
  avails : s.avails.Within s.graph.get?

namespace SharedMonitor.Tidy

variable {s s' : SharedMonitor L}

theorem follow (h : s.Tidy) (idle : s.Idle) {change : ResourceGraph L × List (GraphEvent L)}
    (linked : Linked change.1) (replays : Replays s.graph.get? change.2 change.1.get?) :
    (s.follow change).Tidy :=
  ⟨linked, h.metrics.tell idle.1 replays, h.avails.tell idle.2 replays⟩

variable [Location L] {p : Profile L σ}

theorem step (h : s.Tidy) {act : MonitorAct L σ} (step : Step p s act s') : s'.Tidy := by
  cases step with
  | call c idle => exact h.follow idle (c.linked_change h.linked) (c.replays_change h.linked)
  | metrics step => exact ⟨h.linked, h.metrics.step step, h.avails⟩
  | avails step => exact ⟨h.linked, h.metrics, h.avails.step step⟩

end SharedMonitor.Tidy

end Tidy

namespace SharedService

variable [Location L] {p : Profile L σ} {s s' : SharedService L} {act : ServiceAct L σ}

/-- What is true of a service at all times. -/
structure Orderly (s : SharedService L) : Prop where
  tidy : s.monitor.Tidy
  exclusive : s.Exclusive
  parentsFirst : ∀ {k found}, s.calls k = some (.holding found) → ParentsFirst [] found.resources
  few : Few s.calls

theorem Step.finds {k : ℕ} {found : Found L} (step : Step p s (.goes k (.holding found)) s') :
    s.calls k = some .searching ∧ ∃ depth x, p.Finds depth x found := by
  cases step with
  | find searching finds => exact ⟨searching, _, _, finds⟩

/-- A call that has been made stays known. -/
theorem Step.calls_some (step : Step p s act s') {k : ℕ} {phase : DiscoveryPhase L}
    (hk : s.calls k = some phase) : ∃ phase', s'.calls k = some phase' := by
  cases act with
  | other act => exact ⟨phase, by rw [step.calls_other, hk]⟩
  | goes j after =>
      rw [step.goes_cases.1]
      by_cases hkj : k = j
      · exact ⟨after, by rw [hkj, Function.update_self]⟩
      · exact ⟨phase, by rw [Function.update_of_ne hkj, hk]⟩

theorem Orderly.step (h : s.Orderly) (step : Step p s act s') : s'.Orderly where
  exclusive := h.exclusive.step step
  tidy := by
    cases step with
    | patch holding idle patched =>
        subst patched
        exact h.tidy.follow idle (Patch.linked_ofFound h.tidy.linked _)
          (Patch.replays_ofFound h.tidy.linked _)
    | other step => exact h.tidy.step step
    | _ => exact h.tidy
  parentsFirst {k found} hk := by
    cases act with
    | other act => exact h.parentsFirst (step.calls_other ▸ hk)
    | goes j after =>
        rw [step.goes_cases.1] at hk
        rcases eq_some_of_update hk with ⟨rfl, hnew⟩ | hold
        · cases hnew
          obtain ⟨-, depth, x, finds⟩ := step.finds
          exact p.scanReady_parentsFirst depth finds
        · exact h.parentsFirst hold
  few := by
    cases act with
    | other act => exact step.calls_other ▸ h.few
    | goes j after => exact step.goes_cases.1 ▸ h.few.update j _

end SharedService

namespace SharedEndpoint

variable [Location L] {p : Profile L σ} {period : Option UInt64} {s s' : SharedEndpoint L}
  {act : EndpointAct L σ}

/-- What is true of an endpoint at all times. -/
structure Orderly (s : SharedEndpoint L) : Prop where
  service : s.service.Orderly
  few : Few s.tasks
  awaited : ∀ {t k h}, s.tasks t = some ⟨.awaits k, h⟩ →
    ∃ phase, s.service.calls k = some phase

omit [Location L] in
/-- Handles change hands, and the tasks stay the same. -/
theorem handOver_eq_some {holder receiver : Handle} {tasks : ℕ → Option OwnedTask} {t : ℕ}
    {x : OwnedTask} (h : handOver holder receiver tasks t = some x) :
    ∃ h, tasks t = some ⟨x.phase, h⟩ := by
  obtain ⟨y, hy, rfl⟩ := Option.map_eq_some_iff.1 h
  refine ⟨y.handle, ?_⟩
  split <;> exact hy

omit [Location L] in
theorem orderly_start : Orderly ({} : SharedEndpoint L) where
  service := {
    tidy := ⟨linked_empty, QueueShare.within_empty, QueueShare.within_empty⟩
    exclusive := Or.inr ⟨rfl, fun k ⟨phase, hk, _⟩ => by cases hk⟩
    parentsFirst := by simp
    few := ⟨0, fun _ _ => rfl⟩ }
  few := ⟨0, fun _ _ => rfl⟩
  awaited := by simp

omit [Location L] in
theorem handOver_handle {holder receiver : Handle} {tasks : ℕ → Option OwnedTask} {t : ℕ}
    (held : ∀ y, tasks t = some y → y.handle = holder) {x : OwnedTask}
    (h : handOver holder receiver tasks t = some x) : x.handle = receiver := by
  obtain ⟨y, hy, rfl⟩ := Option.map_eq_some_iff.1 h
  rw [if_pos (held y hy)]

namespace Orderly

omit [Location L] in
theorem moved (h : s.Orderly) (t : ℕ) {task : Option OwnedTask}
    (htask : ∀ k h, task = some ⟨.awaits k, h⟩ → ∃ phase, s.service.calls k = some phase) :
    (s.moved t task).Orderly where
  service := h.service
  few := h.few.update t task
  awaited {i k g} hi := by
    rcases eq_some_of_update hi with ⟨-, hnew⟩ | hold
    · exact htask k g hnew
    · exact h.awaited hold

omit [Location L] in
theorem ending (h : s.Orderly) (n : ℕ) (phase : StopPhase) : (s.ending n phase).Orderly :=
  ⟨h.service, h.few, h.awaited⟩

omit [Location L] in
theorem handOver (h : s.Orderly) (holder receiver : Handle) :
    Orderly { s with tasks := handOver holder receiver s.tasks } where
  service := h.service
  few := h.few.imp fun bound hbound t ht => by simp [SharedEndpoint.handOver, hbound t ht]
  awaited ht := by
    obtain ⟨g, hg⟩ := handOver_eq_some ht
    exact h.awaited hg

omit [Location L] in
theorem withMonitor (h : s.Orderly) {monitor : SharedMonitor L} (tidy : monitor.Tidy) :
    (s.withMonitor monitor).Orderly where
  service := ⟨tidy, h.service.exclusive, h.service.parentsFirst, h.service.few⟩
  few := h.few
  awaited := h.awaited

theorem withService (h : s.Orderly) {act : ServiceAct L σ} {service : SharedService L}
    (step : SharedService.Step p s.service act service) : Orderly { s with service } where
  service := h.service.step step
  few := h.few
  awaited ht := by
    obtain ⟨phase, hk⟩ := h.awaited ht
    exact step.calls_some hk

theorem step (h : s.Orderly) (step : Step p period s act s') : s'.Orderly := by
  cases step with
  | begin => exact ⟨h.service, h.few, h.awaited⟩
  | spawn =>
      have spawned : ∀ {s : SharedEndpoint L}, s.Orderly → ∀ t g phase,
          (∀ k, phase ≠ .awaits k) → (s.moved t (some ⟨phase, g⟩)).Orderly := by
        intro s hs t g phase hphase
        refine hs.moved t fun k g' heq => ?_
        cases heq
        exact absurd rfl (hphase k)
      refine spawned (spawned (spawned ?_ _ _ _ (by simp)) _ _ _ (by simp)) _ _ _ (by simp)
      exact ⟨h.service, h.few, h.awaited⟩
  | store => exact ⟨h.service, (h.handOver _ _).few, (h.handOver _ _).awaited⟩
  | call due new =>
      refine Orderly.moved (h.withService (.call (p := p) new)) _ fun k g heq => ?_
      cases heq
      exact ⟨_, SharedService.calls_goes _ _ _⟩
  | callLast due new => exact Orderly.moved (h.withService (.call (p := p) new)) _ (by simp)
  | sleep => exact h.moved _ (by simp)
  | finish => exact h.moved _ (by simp)
  | wake => exact h.moved _ (by simp)
  | quit => exact h.moved _ (by simp)
  | service step => exact h.withService step.1
  | signal => exact ⟨h.service, h.few, h.awaited⟩
  | take => exact ⟨h.service, (h.handOver _ _).few, (h.handOver _ _).awaited⟩
  | abort => exact h.moved _ (by simp)
  | outlast => exact h.moved _ (by simp)
  | @drop n waiting waited idle =>
      have linked := h.service.tidy.linked
      exact (h.ending n _).withMonitor (h.service.tidy.follow idle
        (ServiceCall.linked_change linked _) (ServiceCall.replays_change linked _))
  | @release n => exact h.ending n _
  | @clearMetrics n metrics dropped cleared =>
      subst cleared
      have tidy := h.service.tidy
      exact (h.ending n _).withMonitor ⟨tidy.linked, tidy.metrics.clear, tidy.avails⟩
  | @clearAvails n avails metricsCleared cleared =>
      subst cleared
      have tidy := h.service.tidy
      exact (h.ending n _).withMonitor ⟨tidy.linked, tidy.metrics, tidy.avails.clear⟩
  | @leave n => exact h.ending n _

end Orderly

theorem orderly_of_run {acts : List (EndpointAct L σ)} (run : Runs (Step p period) {} acts s) :
    s.Orderly :=
  run.preserves orderly_start fun h step => h.step step

end SharedEndpoint

end EndpointMonitor
