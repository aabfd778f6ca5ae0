import EndpointMonitor.Proofs.Resource.Loops
import EndpointMonitor.Proofs.Schedule.SharedEndpoint

/-!
# What may fill an endpoint again

A stop that has removed the resources comes to its end whenever it is left alone. What is stored
then is what the removal has left. And a scan that has found something patches the resources
sooner or later, whether it was under way when they were removed, or a task that nobody waits for
has called it since then.
-/

namespace EndpointMonitor

open ResourceGraph

variable {L σ : Type} [Location L]

/-- A scan of the endpoint may find something. -/
def Profile.CanFind (p : Profile L σ) : Prop :=
  ∃ depth x found, p.Finds depth x found ∧ found.resources ≠ []

/-- Whether a task may call another discovery, given how the calls so far have come along. -/
def TaskPhase.MayScan (period : Option UInt64) (calls : ℕ → Option (DiscoveryPhase L)) :
    TaskPhase → Prop
  | .collects => False
  | .due => True
  | .awaits k => period ≠ none ∨
    ∃ name, calls k = some (.ended (.error (.refused (.notReady name))))
  | .sleeps => True

/-- Nothing is under way or to come that may find something. -/
structure SharedEndpoint.Barren (p : Profile L σ) (period : Option UInt64)
    (s : SharedEndpoint L) : Prop where
  held {k : ℕ} {found : Found L} :
    s.service.calls k = some (.holding found) → found.resources = []
  calls : p.CanFind → ∀ {k : ℕ} {phase : DiscoveryPhase L}, s.service.calls k = some phase →
    phase ≠ .called ∧ phase ≠ .searching
  tasks : p.CanFind → ∀ {t : ℕ} {x : OwnedTask}, s.tasks t = some x →
    ¬ x.phase.MayScan period s.service.calls
  starts : p.CanFind → ∀ {m : ℕ} {phase : StartPhase}, s.starts m = some phase →
    phase ≠ .begun

namespace SharedService

variable {p : Profile L σ} {s s' : SharedService L} {k : ℕ}

/-- Left alone, both queues get done with their duties. -/
theorem reaches_idle (s : SharedService L) : ∃ monitor, Reaches (Going p) s { s with monitor } ∧
    monitor.Idle ∧ monitor.graph = s.monitor.graph := by
  obtain ⟨metrics, metricsReach, metricsIdle⟩ := QueueShare.reaches_idle s.monitor.metrics
  obtain ⟨avails, availsReach, availsIdle⟩ := QueueShare.reaches_idle s.monitor.avails
  have first := reaches_metrics (p := p) metricsReach
  have second := reaches_avails (p := p)
    (s := { s with monitor := { s.monitor with metrics } }) availsReach
  exact ⟨{ s.monitor with metrics, avails }, first.trans second, ⟨metricsIdle, availsIdle⟩, rfl⟩

/-- Left alone, a call comes to its end and gives the flag back. -/
def Ends (p : Profile L σ) (s : SharedService L) (k : ℕ) : Prop :=
  ∃ s' result, Reaches (Going p) s s' ∧ s'.monitor.Idle ∧ s'.scanning = false ∧
    s'.calls = Function.update s.calls k (some (.ended result))

theorem Ends.of_reaches (reaches : Reaches (Going p) s s') {phase : DiscoveryPhase L}
    (calls : s'.calls = Function.update s.calls k (some phase)) (ends : Ends p s' k) :
    Ends p s k := by
  obtain ⟨s'', result, rest, idle, free, hcalls⟩ := ends
  refine ⟨s'', result, reaches.trans rest, idle, free, ?_⟩
  rw [hcalls, calls, Function.update_idem]

theorem Ends.of_step {phase : DiscoveryPhase L} (step : Step p s (.goes k phase) s')
    (underWay : phase.UnderWay) (ends : Ends p s' k) : Ends p s k := by
  refine .of_reaches (reaches_step (.refl s) step ?_) step.goes_cases.1 ends
  cases phase with
  | called => exact underWay
  | _ => trivial

theorem ends_finished {report : ScanReport L} (idle : s.monitor.Idle)
    (told : s.calls k = some (.told report) ∨
      s.calls k = some (.counted report) ∧ report.change.isEmpty = true) : Ends p s k :=
  ⟨_, _, reaches_step (.refl s) (.finish told) trivial, idle, rfl, rfl⟩

theorem ends_counted {report : ScanReport L} (idle : s.monitor.Idle)
    (hk : s.calls k = some (.counted report)) : Ends p s k := by
  cases hempty : report.change.isEmpty with
  | true => exact ends_finished idle (.inr ⟨hk, hempty⟩)
  | false =>
      exact .of_step (.tell hk hempty) trivial (ends_finished idle (.inl (calls_goes s k _)))

theorem ends_patched {report : ScanReport L} (idle : s.monitor.Idle)
    (hk : s.calls k = some (.patched report)) : Ends p s k :=
  .of_step (.count hk) trivial (ends_counted idle (calls_goes s k _))

theorem ends_patching {report : ScanReport L} (hk : s.calls k = some (.patching report)) :
    Ends p s k := by
  obtain ⟨monitor, reaches, idle, -⟩ := reaches_idle (p := p) s
  have calls : s.calls = Function.update s.calls k (some (.patching report)) :=
    (Function.update_eq_self_iff.2 hk.symm).symm
  exact .of_reaches reaches calls <|
    .of_step (.release hk idle) trivial (ends_patched idle (calls_goes _ k _))

theorem ends_holding {found : Found L} (idle : s.monitor.Idle)
    (hk : s.calls k = some (.holding found)) : Ends p s k :=
  .of_step (.patch hk idle rfl) trivial (ends_patching (calls_goes s k _))

/-- Left alone, whoever has the flag comes to an end, if a scan does. -/
theorem ends_of_underWay (finds : p.CanFind) (idle : s.monitor.Idle) {phase : DiscoveryPhase L}
    (hk : s.calls k = some phase) (underWay : phase.UnderWay) : Ends p s k := by
  cases phase with
  | called => exact underWay.elim
  | searching =>
      obtain ⟨depth, x, found, finds, -⟩ := finds
      exact .of_step (.find hk finds) trivial (ends_holding idle (calls_goes s k _))
  | holding found => exact ends_holding idle hk
  | patching report => exact ends_patching hk
  | patched report => exact ends_patched idle hk
  | counted report => exact ends_counted idle hk
  | told report => exact ends_finished idle (.inl hk)
  | ended result => exact underWay.elim

end SharedService

namespace SharedEndpoint

variable {p : Profile L σ} {period : Option UInt64} {s s' : SharedEndpoint L}

/-- Whatever was there before, something may be stored later on, without a start. -/
def Refills (p : Profile L σ) (period : Option UInt64) (s : SharedEndpoint L) : Prop :=
  ∃ s', Reaches (Unstarted p period) s s' ∧ s'.service.monitor.graph.size ≠ 0

theorem Refills.of_reaches (reaches : Reaches (Unstarted p period) s s')
    (refills : Refills p period s') : Refills p period s :=
  refills.imp fun _ h => ⟨reaches.trans h.1, h.2⟩

theorem Refills.of_step {act : EndpointAct L σ} (step : Step p period s act s')
    (unstarted : act.Unstarted) (refills : Refills p period s') : Refills p period s :=
  .of_reaches (.single ⟨step, unstarted⟩) refills

theorem Orderly.reaches (h : s.Orderly) (reaches : Reaches (Unstarted p period) s s') :
    s'.Orderly := by
  induction reaches with
  | refl => exact h
  | tail _ next ih =>
      obtain ⟨act, step, -⟩ := next
      exact ih.step step

/-- What the service does alone is a part of what the endpoint does. -/
theorem reaches_service {service : SharedService L}
    (h : Reaches (SharedService.Going p) s.service service) :
    Reaches (Unstarted p period) s { s with service } :=
  h.lift (fun service => { s with service })
    fun _ act _ step => ⟨.service act, .service step, trivial⟩

section Filling

theorem refills_of_holding (h : s.Orderly) (idle : s.service.monitor.Idle) {k : ℕ}
    {found : Found L} (hk : s.service.calls k = some (.holding found))
    (hfound : found.resources ≠ []) : Refills p period s := by
  obtain ⟨r, hr⟩ := List.exists_mem_of_ne_nil _ hfound
  have stored := Patch.stored_ofFound h.service.tidy.linked (h.service.parentsFirst hk) hr
  exact .of_step (.service ⟨.patch hk idle rfl, trivial⟩) trivial
    ⟨_, .refl _, fun hsize => (size_eq_zero_iff _).1 hsize r.id ((mem_nodes_iff _ _).2 stored)⟩

theorem refills_of_searching (finds : p.CanFind) (h : s.Orderly)
    (idle : s.service.monitor.Idle) {k : ℕ} (hk : s.service.calls k = some .searching) :
    Refills p period s := by
  obtain ⟨depth, x, found, hfinds, hfound⟩ := finds
  have step : Step p period s _ _ := .service ⟨.find hk hfinds, trivial⟩
  exact .of_step step trivial
    (refills_of_holding (h.step step) idle (SharedService.calls_goes _ k _) hfound)

/-- A call takes the flag as soon as it is free, and it gets free sooner or later. -/
theorem refills_of_called (finds : p.CanFind) (h : s.Orderly) (idle : s.service.monitor.Idle)
    {k : ℕ} (hk : s.service.calls k = some .called) : Refills p period s := by
  have free : ∀ {s : SharedEndpoint L}, s.Orderly → s.service.monitor.Idle →
      s.service.calls k = some .called → s.service.scanning = false → Refills p period s := by
    intro s h idle hk free
    have step : Step p period s _ _ := .service ⟨.enter hk free, trivial⟩
    exact .of_step step trivial
      (refills_of_searching finds (h.step step) idle (SharedService.calls_goes _ k _))
  -- Whoever has the flag is another call, and goes on before this one does.
  rcases h.service.exclusive with ⟨-, j, hj⟩ | ⟨hfree, -⟩
  · obtain ⟨phase, hphase, underWay⟩ := (hj j).2 rfl
    obtain ⟨service, result, reaches, hidle, hfree, hcalls⟩ :=
      SharedService.ends_of_underWay finds idle hphase underWay
    have ended : Reaches (Unstarted p period) s { s with service } := reaches_service reaches
    have hne : k ≠ j := by
      rintro rfl
      rw [hk, Option.some.injEq] at hphase
      subst hphase
      exact underWay
    have still : service.calls k = some .called := by
      rw [hcalls, Function.update_of_ne hne, hk]
    exact .of_reaches ended (free (h.reaches ended) hidle still hfree)
  · exact free h idle hk hfree

theorem refills_of_due (finds : p.CanFind) (h : s.Orderly) (idle : s.service.monitor.Idle)
    {t : ℕ} {handle : Handle} (due : s.tasks t = some ⟨.due, handle⟩) : Refills p period s := by
  obtain ⟨k, new⟩ := h.service.few.exists_new
  by_cases held : handle = .nobody
  · subst held
    have step : Step p period s _ _ := .callLast due new
    exact .of_step step trivial
      (refills_of_called finds (h.step step) idle (SharedService.calls_goes _ k _))
  · have step : Step p period s _ _ := .call due new held
    exact .of_step step trivial
      (refills_of_called finds (h.step step) idle (SharedService.calls_goes _ k _))

theorem refills_of_sleeps (finds : p.CanFind) (h : s.Orderly) (idle : s.service.monitor.Idle)
    {t : ℕ} {handle : Handle} (sleeps : s.tasks t = some ⟨.sleeps, handle⟩) :
    Refills p period s := by
  have step : Step p period s _ _ := .wake sleeps
  exact .of_step step trivial
    (refills_of_due finds (h.step step) idle (Function.update_self ..))

/-- A task whose call has ended goes on to the next one, if there is a next one. -/
theorem refills_of_ended (finds : p.CanFind) (h : s.Orderly) (idle : s.service.monitor.Idle)
    {t k : ℕ} {handle : Handle} (awaits : s.tasks t = some ⟨.awaits k, handle⟩)
    {result : Except Failure (ScanReport L)}
    (ended : s.service.calls k = some (.ended result)) {wait : UInt64}
    (again : nextScanMillis period result = some wait) : Refills p period s := by
  have step : Step p period s _ _ := .sleep awaits ended again
  exact .of_step step trivial
    (refills_of_sleeps finds (h.step step) idle (Function.update_self ..))

theorem exists_nextScanMillis {α : Type} (hperiod : period ≠ none) (result : Except Failure α) :
    ∃ wait, nextScanMillis period result = some wait := by
  obtain ⟨millis, rfl⟩ := Option.ne_none_iff_exists'.1 hperiod
  unfold nextScanMillis
  split <;> exact ⟨_, rfl⟩

theorem refills_of_awaits (finds : p.CanFind) (h : s.Orderly) (idle : s.service.monitor.Idle)
    {t k : ℕ} {handle : Handle} (awaits : s.tasks t = some ⟨.awaits k, handle⟩)
    (may : (TaskPhase.awaits k).MayScan period s.service.calls) : Refills p period s := by
  rcases may with hperiod | ⟨name, ended⟩
  · obtain ⟨phase, hk⟩ := h.awaited awaits
    by_cases underWay : phase.UnderWay
    · obtain ⟨service, result, reaches, hidle, -, hcalls⟩ :=
        SharedService.ends_of_underWay finds idle hk underWay
      have ended : Reaches (Unstarted p period) s { s with service } := reaches_service reaches
      obtain ⟨wait, again⟩ := exists_nextScanMillis hperiod result
      have hended : service.calls k = some (.ended result) := by
        rw [hcalls, Function.update_self]
      exact .of_reaches ended
        (refills_of_ended finds (h.reaches ended) hidle awaits hended again)
    · cases phase with
      | called => exact refills_of_called finds h idle hk
      | ended result =>
          obtain ⟨wait, again⟩ := exists_nextScanMillis hperiod result
          exact refills_of_ended finds h idle awaits hk again
      | _ => exact absurd trivial underWay
  · exact refills_of_ended finds h idle awaits ended rfl

theorem refills_of_begun (finds : p.CanFind) (h : s.Orderly) (idle : s.service.monitor.Idle)
    {m : ℕ} (begun : s.starts m = some .begun) : Refills p period s := by
  obtain ⟨bound, new⟩ := h.few
  have step : Step p period s _ _ :=
    .spawn (i := bound) (j := bound + 1) (k := bound + 2) begun (by simp) (by simp [new])
  exact .of_step step trivial
    (refills_of_due finds (h.step step) idle (Function.update_self ..))

/-- Unless nothing that may find something is under way or to come, something may be stored. -/
theorem refills_of_not_barren (h : s.Orderly) (idle : s.service.monitor.Idle)
    (fertile : ¬ Barren p period s) : Refills p period s := by
  by_contra still
  refine fertile ⟨fun hk => ?_, fun finds k phase hk => ⟨?_, ?_⟩, fun finds t x ht may => ?_,
    fun finds m phase hm => ?_⟩
  · by_contra hfound
    exact still (refills_of_holding h idle hk hfound)
  · rintro rfl
    exact still (refills_of_called finds h idle hk)
  · rintro rfl
    exact still (refills_of_searching finds h idle hk)
  · obtain ⟨phase, handle⟩ := x
    cases phase with
    | collects => exact may
    | due => exact still (refills_of_due finds h idle ht)
    | awaits k => exact still (refills_of_awaits finds h idle ht may)
    | sleeps => exact still (refills_of_sleeps finds h idle ht)
  · rintro rfl
    exact still (refills_of_begun finds h idle hm)

end Filling

/-- Left alone, a stop that has removed the resources returns. -/
theorem run_to_return (p : Profile L σ) (period : Option UInt64) {n : ℕ}
    (dropping : s.stops n = some .dropping) :
    ∃ acts monitor stops, Runs (Unstarted p period) s acts
        { s with service := { s.service with monitor }, stops } ∧
      .stop n .returned ∈ acts ∧ monitor.Idle ∧ monitor.graph = s.service.monitor.graph := by
  obtain ⟨monitor, reaches, idle, hgraph⟩ := SharedService.reaches_idle (p := p) s.service
  have followed : Reaches (Unstarted p period) s _ := reaches_service reaches
  obtain ⟨_, run⟩ := Runs.start.extend followed
  have phase : ∀ {s : SharedEndpoint L} {phase : StopPhase},
      (s.ending n phase).stops n = some phase := Function.update_self ..
  have run := run.snoc ⟨.release dropping idle, trivial⟩
  have run := run.snoc ⟨.clearMetrics phase rfl, trivial⟩
  have run := run.snoc ⟨.clearAvails phase rfl, trivial⟩
  have run := run.snoc ⟨.leave phase, trivial⟩
  exact ⟨_, _, _, run, by simp, idle, hgraph⟩

end SharedEndpoint

end EndpointMonitor
