import EndpointMonitor.Proofs.Monitor.Discoveries
import EndpointMonitor.Proofs.Runs
import EndpointMonitor.Schedule.EndpointTask

/-!
# Until the first scan succeeds

The task that scans an endpoint goes on after a scan if a period is set, or if the endpoint was
not ready. Otherwise one scan is all there is, even if it failed: an endpoint that is out of reach
when it is scanned for the first time is given up.
-/

namespace EndpointMonitor

variable {L σ : Type}

/-- The endpoint is not ready yet. -/
def Failure.IsNotReady (f : Failure) : Prop :=
  ∃ name, f = .refused (.notReady name)

theorem nextScanMillis_eq_none_iff {α : Type} {period : Option UInt64}
    {result : Except Failure α} : nextScanMillis period result = none ↔
      period = none ∧ ∀ f, result = .error f → ¬ f.IsNotReady := by
  rcases result with ((_ | _ | _) | _) | _ <;> simp [nextScanMillis, Failure.IsNotReady]

/-- Without a period, only an endpoint that is not ready is scanned again. -/
theorem isNotReady_of_nextScanMillis {α : Type} {result : Except Failure α} {wait : UInt64}
    (h : nextScanMillis none result = some wait) : ∃ f, result = .error f ∧ f.IsNotReady := by
  by_contra ready
  have ends : nextScanMillis none result = none := by
    apply nextScanMillis_eq_none_iff.2
    refine ⟨rfl, ?_⟩
    intro f hf hready
    exact ready ⟨f, hf, hready⟩
  rw [ends] at h
  cases h

/-- What happens around the task that scans, as long as the endpoint is not stopped. -/
inductive ScanAct (L : Type) where
  | scanned (result : Except Failure (ScanReport L))
  /-- The endpoint is told to start again. -/
  | started
  /-- Something else happens, at the endpoint or to its monitor. -/
  | meanwhile

variable [Location L]

/-- What becomes of the task that scans, and of the monitor, if the endpoint is not stopped. A
task that has ended takes no step. -/
inductive ScanStep (p : Profile L σ) (depth : Nat) (pace : Pace) :
    Option EndpointTask × Harvest L σ → ScanAct L → Option EndpointTask × Harvest L σ → Prop
  | scan {phase h result} (elapsed : Nat) (now : UInt64)
      (awake : (EndpointTask.wake h (.scans phase)).getD elapsed ≤ elapsed)
      (outcome : (Monitor.discover p depth now (fun _ m => m) (h.monitor, ())).1 = result) :
      ScanStep p depth pace (some (.scans phase), h) (.scanned result)
        ((EndpointTask.rules p depth pace).step elapsed now (.scans phase) h)
  | start {task h} : ScanStep p depth pace (some task, h) .started (some task.signalled, h)
  | meanwhile {task h} (h' : Harvest L σ) :
      ScanStep p depth pace (some task, h) .meanwhile (some task, h')

/-- The task has not ended, or the last that has happened is a scan that succeeded. -/
def EndsOnSuccess (acts : List (ScanAct L)) (task : Option EndpointTask) : Prop :=
  task = none → ∃ before report, acts = before ++ [.scanned (.ok report)]

/-- No scan has come to a result other than that the endpoint is not ready. -/
def Unready (acts : List (ScanAct L)) : Prop :=
  ∀ result, .scanned result ∈ acts → ∃ f, result = .error f ∧ f.IsNotReady

/-- Where the task stands after some acts: it goes on as long as a period is set or the endpoint
is not ready, and ends with the first scan after which neither holds. -/
inductive ScanProgress (pace : Pace) (acts : List (ScanAct L)) : Option EndpointTask → Prop
  | goesOn {phase} (again : pace.periodMillis ≠ none ∨ Unready acts) :
      ScanProgress pace acts (some (.scans phase))
  | ended {before result} (acts_eq : acts = before ++ [.scanned result])
      (once : pace.periodMillis = none) (unready : Unready before)
      (decided : ∀ f, result = .error f → ¬ f.IsNotReady) : ScanProgress pace acts none

section Progress

variable {p : Profile L σ} {depth : Nat} {pace : Pace} {acts : List (ScanAct L)}
  {s s' : Option EndpointTask × Harvest L σ}

omit [Location L] in
theorem Unready.snoc (h : Unready acts) {act : ScanAct L}
    (hact : ∀ result, act = .scanned result → ∃ f, result = .error f ∧ f.IsNotReady) :
    Unready (acts ++ [act]) := by
  intro result hresult
  rcases List.mem_append.1 hresult with hresult | hresult
  · exact h result hresult
  · exact hact result (List.mem_singleton.1 hresult).symm

omit [Location L] in
theorem Unready.isNotReady (h : Unready acts) {f : Failure} (hf : .scanned (.error f) ∈ acts) :
    f.IsNotReady := by
  obtain ⟨g, hg, hready⟩ := h _ hf
  cases hg
  exact hready

/-- After a scan the task sleeps, or it ends if nothing is to be scanned again. -/
theorem scanned_task (p : Profile L σ) (depth : Nat) (pace : Pace) (elapsed : Nat) (now : UInt64)
    (phase : ScanPhase) (h : Harvest L σ) :
    ((EndpointTask.rules p depth pace).step elapsed now (.scans phase) h).1 =
      (nextScanMillis pace.periodMillis
        (Monitor.discover p depth now (fun _ m => m) (h.monitor, ())).1).map
          fun wait => .scans (.sleeping (elapsed + wait.toNat)) := by
  simp only [EndpointTask.rules, EndpointTask.step, Harvest.scanStep, Option.map_map]
  rfl

theorem ScanProgress.step {act : ScanAct L} (h : ScanProgress pace acts s.1)
    (step : ScanStep p depth pace s act s') : ScanProgress pace (acts ++ [act]) s'.1 := by
  cases step with
  | @scan phase g result elapsed now awake outcome =>
      -- The task had not ended, or it could not have scanned.
      obtain ⟨again⟩ := h
      rw [scanned_task, outcome]
      cases hnext : nextScanMillis pace.periodMillis result with
      | none =>
          obtain ⟨once, decided⟩ := nextScanMillis_eq_none_iff.1 hnext
          exact .ended rfl once (again.resolve_left (not_not_intro once)) decided
      | some wait =>
          by_cases once : pace.periodMillis = none
          · rw [once] at hnext
            apply ScanProgress.goesOn
            apply Or.inr
            apply (again.resolve_left (not_not_intro once)).snoc
            rintro _ ⟨⟩
            exact isNotReady_of_nextScanMillis hnext
          · exact .goesOn (.inl once)
  | start =>
      obtain ⟨again⟩ := h
      apply ScanProgress.goesOn
      exact again.imp_right fun unready => unready.snoc (by simp)
  | meanwhile =>
      obtain ⟨again⟩ := h
      apply ScanProgress.goesOn
      exact again.imp_right fun unready => unready.snoc (by simp)

theorem scanProgress_of_run {h : Harvest L σ}
    (run : Runs (ScanStep p depth pace) (some (.scans .due), h) acts s) :
    ScanProgress pace acts s.1 :=
  run.keeps (I := fun acts s => ScanProgress pace acts s.1) (.goesOn (.inr (by simp [Unready])))
    fun progress step => progress.step step

/-- The task that scans ends only on success if and only if a period is set, or no scan has failed
but for the endpoint not being ready. -/
theorem endsOnSuccess_iff {h : Harvest L σ}
    (run : Runs (ScanStep p depth pace) (some (.scans .due), h) acts s) :
    EndsOnSuccess acts s.1 ↔
      pace.periodMillis ≠ none ∨ ∀ f, .scanned (.error f) ∈ acts → f.IsNotReady := by
  have progress := scanProgress_of_run run
  generalize s.1 = task at progress
  cases progress with
  | goesOn again =>
      apply iff_of_true
      · intro ended
        cases ended
      · apply again.imp_right
        intro unready f hf
        exact unready.isNotReady hf
  | @ended before result acts_eq once unready decided =>
      subst acts_eq
      constructor
      · intro success
        obtain ⟨_, report, heq⟩ := success rfl
        obtain ⟨rfl, hlast⟩ := List.append_inj' heq rfl
        cases hlast
        refine .inr fun f hf => ?_
        obtain hf | hf := List.mem_append.1 hf
        · exact unready.isNotReady hf
        · simp at hf
      · intro holds _
        have failures := holds.resolve_left (not_not_intro once)
        cases result with
        | ok report => exact ⟨before, report, rfl⟩
        | error f => exact absurd (failures f (by simp)) (decided f rfl)

end Progress

section InMemory

open Monitor

/-- An endpoint in memory that is ready once its node exists. -/
def awaitingNode : Profile ManagementAddress (InMemory ManagementAddress) :=
  { heldInMemory [typeAtX "A"] with waitFor := [⟨[⟨"x", "1"⟩]⟩] }

/-- Without a period, an endpoint that is not ready at first is scanned until it is. -/
theorem endsOnSuccess_iff_readyLater :
    ∃ report h, Runs (ScanStep awaitingNode 1 ⟨1000, none⟩)
        (some (.scans .due), { monitor := .start {} })
        [.scanned (.error (.refused (.notReady "e"))), .meanwhile, .scanned (.ok report)]
        (none, h) ∧
      EndsOnSuccess
        [.scanned (.error (.refused (.notReady "e"))), .meanwhile, .scanned (.ok report)] none := by
  obtain ⟨report, hreport⟩ : ∃ report, (discover awaitingNode 1 10000 (fun _ m => m)
      (.start oneNode, ())).1 = .ok report := ⟨_, rfl⟩
  have first : ScanStep awaitingNode 1 ⟨1000, none⟩ (some (.scans .due), { monitor := .start {} })
      (.scanned (.error (.refused (.notReady "e")))) (some (.scans (.sleeping 10000)), _) :=
    .scan 0 0 (Nat.le_refl 0) rfl
  have last : ScanStep awaitingNode 1 ⟨1000, none⟩
      (some (.scans (.sleeping 10000)), { monitor := .start oneNode }) (.scanned (.ok report))
      (none, _) :=
    .scan 10000 10000 (Nat.le_refl 10000) hreport
  have run := ((Runs.start.snoc first).snoc (.meanwhile { monitor := .start oneNode })).snoc last
  refine ⟨report, _, run, (endsOnSuccess_iff run).2 (.inr fun f hf => ?_)⟩
  exact ⟨"e", by simpa using hf⟩

/-- Without a period, an endpoint that is out of reach at first is given up. -/
theorem not_endsOnSuccess_noRoute :
    let noRoute := InMemory.withFaults oneNode fun faults => { faults with connect := some .noRoute }
    ∃ h, Runs (ScanStep (heldInMemory [typeAtX "A"]) 1 ⟨1000, none⟩)
        (some (.scans .due), { monitor := .start noRoute })
        [.scanned (.error (.refused (.access (.unreachable "no route"))))] (none, h) ∧
      ¬ EndsOnSuccess (L := ManagementAddress)
        [.scanned (.error (.refused (.access (.unreachable "no route"))))] none := by
  intro noRoute
  have first : ScanStep (heldInMemory [typeAtX "A"]) 1 ⟨1000, none⟩
      (some (.scans .due), { monitor := .start noRoute })
      (.scanned (.error (.refused (.access (.unreachable "no route"))))) (none, _) :=
    .scan 0 0 (Nat.le_refl 0) rfl
  refine ⟨_, Runs.start.snoc first, fun success => ?_⟩
  obtain ⟨before, report, heq⟩ := success rfl
  have hlast := congrArg List.getLast? heq
  simp at hlast

end InMemory

end EndpointMonitor
