import EndpointMonitor.Proofs.Monitor.Traces

/-!
# Discoveries by many callers

Whoever calls a discovery has to take a flag first, and whoever has it searches the endpoint,
patches the resources, counts the scan and tells the listeners, in this order. Between any two
of these steps others call, take what is due, and change the resources. A call that does not
get the flag is refused, and one that fails gives it back before it has changed anything.
-/

namespace EndpointMonitor

variable {L σ : Type}

/-- How far a call of a discovery has come. -/
inductive DiscoveryPhase (L : Type) where
  | called
  /-- The call has the flag, and asks the endpoint. -/
  | searching
  | holding (found : Found L)
  /-- The resources are patched, and the queues are following. -/
  | patching (report : ScanReport L)
  | patched (report : ScanReport L)
  | counted (report : ScanReport L)
  | told (report : ScanReport L)
  | ended (result : Except Failure (ScanReport L))

namespace DiscoveryPhase

/-- Whether a call has the flag. -/
def UnderWay : DiscoveryPhase L → Prop
  | .called => False
  | .ended _ => False
  | _ => True

/-- Whether a call has touched nothing but the flag. -/
def Untouching : DiscoveryPhase L → Prop
  | .called => True
  | .searching => True
  | .ended (.error _) => True
  | _ => False

end DiscoveryPhase

/-- The resources of an endpoint with all who scan it. -/
structure SharedService (L : Type) where
  monitor : SharedMonitor L := {}
  scanning : Bool := false
  /-- The number of scans that were counted. -/
  scans : UInt64 := 0
  calls : ℕ → Option (DiscoveryPhase L) := fun _ => none
  /-- What the listeners were told. -/
  told : List (InventoryChange L) := []

/-- A step of a shared service. -/
inductive ServiceAct (L σ : Type) where
  /-- A call goes on. -/
  | goes (k : ℕ) (phase : DiscoveryPhase L)
  | other (act : MonitorAct L σ)

/-- Whether an act is not a new call. -/
def ServiceAct.GoesOn : ServiceAct L σ → Prop
  | .goes _ .called => False
  | _ => True

/-- Whether an act is not the beginning of a discovery. -/
def MonitorAct.Undiscovering : MonitorAct L σ → Prop
  | .call (.discover _ _) => False
  | _ => True

/-- How the search of an endpoint fails. -/
def Profile.Fails [Location L] (p : Profile L σ) (depth : Nat) (x : Exchange σ) (f : Failure) :
    Prop :=
  (Monitor.search p depth { exchange := x }).1 = .error f

/-- A discovery that was not refused and has no report failed to search. -/
theorem Profile.fails_of_discover [Location L] {p : Profile L σ} {depth : Nat} {now : UInt64}
    {τ : Type} {listen : Listener L σ τ} {m m' : Monitor L σ} {t t' : τ} {f : Failure}
    (hidle : m.scanning = false)
    (h : Monitor.discover p depth now listen (m, t) = (.error f, m', t')) :
    p.Fails depth m.exchange f := by
  unfold Monitor.discover Monitor.search at h
  unfold Fails Monitor.search
  rcases hrun : (p.scanReady depth).run m.exchange with ⟨b | e | found, y⟩
  all_goals
    simp only [hidle, hrun, Bool.false_eq_true, if_false] at h ⊢
    cases h
  all_goals rfl

/-- Let the queues follow a change of the resources. -/
def SharedMonitor.follow (s : SharedMonitor L) (change : ResourceGraph L × List (GraphEvent L)) :
    SharedMonitor L where
  graph := change.1
  metrics := s.metrics.tell change.2
  avails := s.avails.tell change.2

namespace SharedService

/-- The service after a call has gone on. -/
def goes (s : SharedService L) (k : ℕ) (phase : DiscoveryPhase L) : SharedService L :=
  { s with calls := Function.update s.calls k (some phase) }

@[simp] theorem calls_goes (s : SharedService L) (k : ℕ) (phase : DiscoveryPhase L) :
    (s.goes k phase).calls k = some phase := by
  simp [goes]

/-- A call has the flag. -/
def UnderWay (s : SharedService L) (k : ℕ) : Prop :=
  ∃ phase, s.calls k = some phase ∧ phase.UnderWay

/-- Nobody has called yet. -/
structure Quiet (s : SharedService L) : Prop where
  free : s.scanning = false
  uncalled : ∀ k, s.calls k = none

variable [Location L]

/-- What a step does. A patch begins once the queues have followed the operation before it, and
the call keeps everyone else from the resources until they have followed the patch. -/
inductive Step (p : Profile L σ) :
    SharedService L → ServiceAct L σ → SharedService L → Prop
  | call {s k} (new : s.calls k = none) : Step p s (.goes k .called) (s.goes k .called)
  | enter {s k} (called : s.calls k = some .called) (free : s.scanning = false) :
      Step p s (.goes k .searching) { s.goes k .searching with scanning := true }
  | refuse {s k f} (called : s.calls k = some .called) (taken : s.scanning = true)
      (refusal : f = .refused (.scanInProgress p.name)) :
      Step p s (.goes k (.ended (.error f))) (s.goes k (.ended (.error f)))
  | fail {s k depth x f} (searching : s.calls k = some .searching) (fails : p.Fails depth x f) :
      Step p s (.goes k (.ended (.error f)))
        { s.goes k (.ended (.error f)) with scanning := false }
  | find {s k depth x found} (searching : s.calls k = some .searching)
      (finds : p.Finds depth x found) :
      Step p s (.goes k (.holding found)) (s.goes k (.holding found))
  | patch {s k found patch} (holding : s.calls k = some (.holding found))
      (idle : s.monitor.Idle) (patched : patch = Patch.ofFound s.monitor.graph found) :
      Step p s (.goes k (.patching ⟨patch.change, found.errors⟩))
        { s.goes k (.patching ⟨patch.change, found.errors⟩) with
          monitor := s.monitor.follow (patch.graph, patch.events) }
  | release {s k report} (patching : s.calls k = some (.patching report))
      (idle : s.monitor.Idle) :
      Step p s (.goes k (.patched report)) (s.goes k (.patched report))
  | count {s k report} (patched : s.calls k = some (.patched report)) :
      Step p s (.goes k (.counted report))
        { s.goes k (.counted report) with scans := s.scans + 1 }
  | tell {s k report} (counted : s.calls k = some (.counted report))
      (changed : report.change.isEmpty = false) :
      Step p s (.goes k (.told report))
        { s.goes k (.told report) with told := s.told ++ [report.change] }
  | finish {s k report} (told : s.calls k = some (.told report) ∨
        s.calls k = some (.counted report) ∧ report.change.isEmpty = true) :
      Step p s (.goes k (.ended (.ok report)))
        { s.goes k (.ended (.ok report)) with scanning := false }
  | other {s act monitor} (step : SharedMonitor.Step p s.monitor act monitor)
      (undiscovering : act.Undiscovering) : Step p s (.other act) { s with monitor }

variable {p : Profile L σ} {s s' : SharedService L} {acts : List (ServiceAct L σ)} {k : ℕ}
  {phase : DiscoveryPhase L}

/-- A step of those who have called. -/
def Going (p : Profile L σ) (s : SharedService L) (act : ServiceAct L σ) (s' : SharedService L) :
    Prop :=
  Step p s act s' ∧ act.GoesOn

section Flag

omit [Location L] in
theorem underWay_goes {j : ℕ} :
    (s.goes k phase).UnderWay j ↔ j = k ∧ phase.UnderWay ∨ j ≠ k ∧ s.UnderWay j := by
  by_cases hj : j = k
  · subst hj
    simp [UnderWay, goes]
  · simp [UnderWay, goes, hj]

/-- Exactly one call has the flag if it is taken, and none if it is free. -/
def Exclusive (s : SharedService L) : Prop :=
  s.scanning = true ∧ (∃ k, ∀ j, s.UnderWay j ↔ j = k) ∨
    s.scanning = false ∧ ∀ j, ¬ s.UnderWay j

omit [Location L] in
theorem Quiet.exclusive (h : s.Quiet) : s.Exclusive :=
  Or.inr ⟨h.free, fun k ⟨phase, hk, _⟩ => by simp [h.uncalled k] at hk⟩

omit [Location L] in
/-- A call that goes on keeps what it has of the flag. -/
theorem Exclusive.goes (h : s.Exclusive) (hk : s.UnderWay k ↔ phase.UnderWay) :
    (s.goes k phase).Exclusive := by
  have same : ∀ j, (s.goes k phase).UnderWay j ↔ s.UnderWay j := by
    intro j
    rw [underWay_goes]
    by_cases hj : j = k
    · simp [hj, hk]
    · simp [hj]
  rcases h with ⟨htaken, i, hi⟩ | ⟨hfree, hnone⟩
  · exact Or.inl ⟨htaken, i, fun j => (same j).trans (hi j)⟩
  · exact Or.inr ⟨hfree, fun j => mt (same j).1 (hnone j)⟩

omit [Location L] in
/-- A call that ends and had the flag leaves none that has it. -/
theorem Exclusive.not_underWay_goes (h : s.Exclusive) (hk : s.UnderWay k)
    (hphase : ¬ phase.UnderWay) (j : ℕ) : ¬ (s.goes k phase).UnderWay j := by
  rw [underWay_goes]
  rintro (⟨-, hj⟩ | ⟨hne, hj⟩)
  · exact hphase hj
  · rcases h with ⟨-, i, hi⟩ | ⟨-, hnone⟩
    · exact hne (((hi j).1 hj).trans ((hi k).1 hk).symm)
    · exact hnone j hj

omit [Location L] in
theorem underWay_of_calls (hk : s.calls k = some phase) : s.UnderWay k ↔ phase.UnderWay := by
  simp [UnderWay, hk]

theorem Exclusive.step {act : ServiceAct L σ} (h : s.Exclusive) (step : Step p s act s') :
    s'.Exclusive := by
  cases step with
  | call new => exact h.goes (by simp [UnderWay, new, DiscoveryPhase.UnderWay])
  | @enter k called free =>
      refine Or.inl ⟨rfl, k, fun j => ?_⟩
      have hnone := (h.resolve_left fun htaken => by simp [free] at htaken).2 j
      have hgoes : (s.goes k .searching).UnderWay j ↔ j = k := by
        simp [underWay_goes, DiscoveryPhase.UnderWay, hnone]
      exact hgoes
  | refuse called taken refusal => exact h.goes ((underWay_of_calls called).trans .rfl)
  | fail searching fails =>
      have hk := (underWay_of_calls searching).2 trivial
      exact Or.inr ⟨rfl, h.not_underWay_goes hk id⟩
  | find searching finds => exact h.goes ((underWay_of_calls searching).trans .rfl)
  | patch holding idle patched => exact h.goes ((underWay_of_calls holding).trans .rfl)
  | release patching idle => exact h.goes ((underWay_of_calls patching).trans .rfl)
  | count patched => exact h.goes ((underWay_of_calls patched).trans .rfl)
  | tell counted changed => exact h.goes ((underWay_of_calls counted).trans .rfl)
  | @finish k report told =>
      have hk : s.UnderWay k := by
        rcases told with told | ⟨counted, -⟩
        · exact (underWay_of_calls told).2 trivial
        · exact (underWay_of_calls counted).2 trivial
      exact Or.inr ⟨rfl, h.not_underWay_goes hk id⟩
  | other step undiscovering => exact h

end Flag

section Traces

/-- An act that changes neither the resources nor the queues, counts no scan and tells nobody. -/
def Traceless (p : Profile L σ) (act : ServiceAct L σ) : Prop :=
  ∀ {s s'}, Step p s act s' →
    s'.monitor = s.monitor ∧ s'.scans = s.scans ∧ s'.told = s.told

theorem traceless_goes (h : phase.Untouching) : Traceless p (.goes k phase) := by
  intro s s' step
  cases step with
  | call => exact ⟨rfl, rfl, rfl⟩
  | enter => exact ⟨rfl, rfl, rfl⟩
  | refuse => exact ⟨rfl, rfl, rfl⟩
  | fail => exact ⟨rfl, rfl, rfl⟩
  | find => exact h.elim
  | patch => exact h.elim
  | release => exact h.elim
  | count => exact h.elim
  | tell => exact h.elim
  | finish => exact h.elim

/-- A call goes on from nowhere or from a phase that is not its last one, and one that has
touched something has done so for ever. -/
theorem Step.goes_cases (step : Step p s (.goes k phase) s') :
    s'.calls = Function.update s.calls k (some phase) ∧
      (s.calls k = none ∨ ∃ before, s.calls k = some before ∧
        (∀ result, before ≠ .ended result) ∧ (phase.Untouching → before.Untouching)) := by
  cases step with
  | call new => exact ⟨rfl, .inl new⟩
  | enter called => exact ⟨rfl, .inr ⟨_, called, by simp, fun _ => trivial⟩⟩
  | refuse called => exact ⟨rfl, .inr ⟨_, called, by simp, fun _ => trivial⟩⟩
  | fail searching => exact ⟨rfl, .inr ⟨_, searching, by simp, fun _ => trivial⟩⟩
  | find searching => exact ⟨rfl, .inr ⟨_, searching, by simp, fun _ => trivial⟩⟩
  | patch holding => exact ⟨rfl, .inr ⟨_, holding, by simp, fun h => h⟩⟩
  | release patching => exact ⟨rfl, .inr ⟨_, patching, by simp, fun h => h⟩⟩
  | count patched => exact ⟨rfl, .inr ⟨_, patched, by simp, fun h => h⟩⟩
  | tell counted => exact ⟨rfl, .inr ⟨_, counted, by simp, fun h => h⟩⟩
  | finish told =>
      rcases told with told | ⟨counted, -⟩
      · exact ⟨rfl, .inr ⟨_, told, by simp, fun h => h⟩⟩
      · exact ⟨rfl, .inr ⟨_, counted, by simp, fun h => h⟩⟩

/-- Nobody goes on with a call that was not made. -/
theorem Step.eq_called (step : Step p s (.goes k phase) s') (new : s.calls k = none) :
    phase = .called := by
  cases step with
  | call => rfl
  | enter called => simp [new] at called
  | refuse called => simp [new] at called
  | fail searching => simp [new] at searching
  | find searching => simp [new] at searching
  | patch holding => simp [new] at holding
  | release patching => simp [new] at patching
  | count patched => simp [new] at patched
  | tell counted => simp [new] at counted
  | finish told => simp [new] at told

theorem Step.calls_other {act : MonitorAct L σ} (step : Step p s (.other act) s') :
    s'.calls = s.calls := by
  cases step
  rfl

/-- The phases of the calls tell of the acts so far. -/
structure Recorded (acts : List (ServiceAct L σ)) (s : SharedService L) : Prop where
  new : ∀ {k}, s.calls k = none → ∀ phase, .goes k phase ∉ acts
  untouching : ∀ {k phase}, s.calls k = some phase → phase.Untouching →
    ∀ {before}, .goes k before ∈ acts → before.Untouching
  ended : ∀ {k result}, .goes k (.ended result) ∈ acts → s.calls k = some (.ended result)

theorem Recorded.step {act : ServiceAct L σ} (h : Recorded acts s) (step : Step p s act s') :
    Recorded (acts ++ [act]) s' := by
  cases act with
  | other act =>
      have calls := step.calls_other
      refine ⟨fun hk phase => ?_, fun hk hphase before hbefore => ?_, fun hended => ?_⟩
      · simpa using h.new (calls ▸ hk) phase
      · exact h.untouching (calls ▸ hk) hphase (by simpa using hbefore)
      · rw [calls]
        exact h.ended (by simpa using hended)
  | goes i after =>
      obtain ⟨calls, cases⟩ := step.goes_cases
      refine ⟨fun {k} hk phase => ?_, fun {k phase} hk hphase before hbefore => ?_,
        fun {k result} hended => ?_⟩ <;> by_cases hi : k = i
      · subst hi
        simp [calls] at hk
      · rw [calls, Function.update_of_ne hi] at hk
        simpa [hi] using h.new hk phase
      · subst hi
        rw [calls, Function.update_self, Option.some.injEq] at hk
        subst hk
        rcases List.mem_append.1 hbefore with hold | hnew
        · rcases cases with hnone | ⟨former, hformer, -, hkeeps⟩
          · exact absurd hold (h.new hnone before)
          · exact h.untouching hformer (hkeeps hphase) hold
        · cases List.mem_singleton.1 hnew
          exact hphase
      · rw [calls, Function.update_of_ne hi] at hk
        exact h.untouching hk hphase (by simpa [hi] using hbefore)
      · subst hi
        rw [calls, Function.update_self]
        rcases List.mem_append.1 hended with hold | hnew
        · rcases cases with hnone | ⟨former, hformer, hopen, -⟩
          · exact absurd hold (h.new hnone _)
          · rw [h.ended hold, Option.some.injEq] at hformer
            exact absurd hformer.symm (hopen result)
        · cases List.mem_singleton.1 hnew
          rfl
      · rw [calls, Function.update_of_ne hi]
        exact h.ended (by simpa [hi] using hended)

end Traces

section AtOnce

/-- Those who have called go on. -/
theorem reaches_step {s'' : SharedService L} {act : ServiceAct L σ}
    (h : Reaches (Going p) s s') (step : Step p s' act s'') (going : act.GoesOn) :
    Reaches (Going p) s s'' :=
  h.tail ⟨step, going⟩

/-- What a queue does alone is a part of what the service does. -/
theorem reaches_metrics {t : QueueShare L MetricDetail}
    (h : Reaches QueueShare.Step s.monitor.metrics t) :
    Reaches (Going p) s { s with monitor := { s.monitor with metrics := t } } :=
  h.lift (fun t => { s with monitor := { s.monitor with metrics := t } })
    fun _ act _ step => ⟨.other (.metrics act), .other (.metrics step) trivial, trivial⟩

theorem reaches_avails {t : QueueShare L AvailDetail}
    (h : Reaches QueueShare.Step s.monitor.avails t) :
    Reaches (Going p) s { s with monitor := { s.monitor with avails := t } } :=
  h.lift (fun t => { s with monitor := { s.monitor with avails := t } })
    fun _ act _ step => ⟨.other (.avails act), .other (.avails step) trivial, trivial⟩

/-- Both queues follow a change when nobody comes between. -/
theorem reaches_observe {m : Monitor L σ} (now : UInt64) (g : ResourceGraph L)
    (events : List (GraphEvent L)) (h : s.monitor = m.shared.follow (g, events)) :
    Reaches (Going p) s
      { s with monitor := (Monitor.observe now { m with graph := g } events).shared } := by
  obtain ⟨monitor, scanning, scans, calls, told⟩ := s
  subst h
  have metrics := QueueShare.reaches_observe now events (s := m.shared.metrics) rfl
  have avails := QueueShare.reaches_observe now events (s := m.shared.avails) rfl
  exact (reaches_metrics (s := ⟨_, scanning, scans, calls, told⟩) metrics).trans
    (reaches_avails (s := ⟨⟨g, _, _⟩, scanning, scans, calls, told⟩) avails)

/-- The service after a discovery that has ended. -/
def afterDiscovery {τ : Type} (s : SharedService L) (k : ℕ) (told : List (InventoryChange L))
    (ended : Except Failure (ScanReport L) × Monitor L σ × τ) : SharedService L where
  monitor := ended.2.1.shared
  scanning := ended.2.1.scanning
  scans := ended.2.1.exchange.diagnostics.scans
  calls := Function.update s.calls k (some (.ended ended.1))
  told := told

/-- A discovery whose listener does nothing is a run in which nobody comes between. -/
theorem reaches_discover {m : Monitor L σ} (hmonitor : s.monitor = m.shared)
    (hscanning : s.scanning = m.scanning) (hscans : s.scans = m.exchange.diagnostics.scans)
    (called : s.calls k = some .called) (depth : Nat) (now : UInt64) {τ : Type} (t : τ) :
    ∃ told, Reaches (Going p) s
      (s.afterDiscovery k told (Monitor.discover p depth now (fun _ s => s) (m, t))) := by
  rcases hended : Monitor.discover p depth now (fun _ s => s) (m, t) with ⟨f | report, m', t'⟩
  · obtain ⟨untraced, -⟩ := Monitor.untraced_discover_of_error hended
    refine ⟨s.told, ?_⟩
    have failed : Reaches (Going p) s (s.goes k (.ended (.error f))) := by
      cases hidle : m.scanning with
      | true =>
          rw [Monitor.discover_of_scanning hidle] at hended
          cases hended
          exact reaches_step (.refl s) (.refuse called (hscanning.trans hidle) rfl) trivial
      | false =>
          have entered := reaches_step (p := p) (.refl s)
            (.enter called (hscanning.trans hidle)) trivial
          have failed := reaches_step entered
            (.fail (calls_goes _ k _) (Profile.fails_of_discover hidle hended)) trivial
          convert failed using 1
          simp [goes, hscanning, hidle]
    convert failed using 1
    simp [afterDiscovery, goes, hmonitor, hscanning, hscans, untraced.shared_eq,
      untraced.scans_eq, untraced.scanning]
  · obtain ⟨hidle, found, finds, hreport, hm', -⟩ := Monitor.discover_ok_cases hended
    rw [Monitor.announce_unheard] at hm'
    let patch := Patch.ofFound m.graph found
    have idle : s.monitor.Idle := hmonitor ▸ ⟨rfl, rfl⟩
    have hpatch : patch = Patch.ofFound s.monitor.graph found := by rw [hmonitor]; rfl
    have follows : s.monitor.follow (patch.graph, patch.events) =
        m.shared.follow (patch.graph, patch.events) := by rw [hmonitor]
    have hshared : m'.shared = (m.adoptPatch now patch).shared := by
      rw [hm']
      exact SharedMonitor.shared_adopt p now _ found
    have hcount : m'.exchange.diagnostics.scans = m.exchange.diagnostics.scans + 1 := by
      rw [hm']
      exact Monitor.scans_scanned p depth now m found
    have hfree : m'.scanning = false := by rw [hm']
    have entered := reaches_step (p := p) (.refl s) (.enter called (hscanning.trans hidle)) trivial
    have held := reaches_step entered (.find (calls_goes _ k _) finds) trivial
    have patched := reaches_step held
      (.patch (calls_goes _ k (.holding found)) idle hpatch) trivial
    rw [← hreport] at patched
    have followed := patched.trans (reaches_observe now patch.graph patch.events follows)
    have released := reaches_step followed
      (.release (calls_goes _ k (.patching report)) ⟨rfl, rfl⟩) trivial
    have counted := reaches_step released (.count (calls_goes _ k (.patched report))) trivial
    cases hempty : report.change.isEmpty with
    | true =>
        have finished := reaches_step counted
          (.finish (.inr ⟨calls_goes _ k (.counted report), hempty⟩)) trivial
        refine ⟨s.told, ?_⟩
        convert finished using 1
        simp [afterDiscovery, goes, hshared, hcount, hfree, hscans, Monitor.adoptPatch]
    | false =>
        have told := reaches_step counted
          (.tell (calls_goes _ k (.counted report)) hempty) trivial
        have finished := reaches_step told (.finish (.inl (calls_goes _ k (.told report)))) trivial
        refine ⟨s.told ++ [report.change], ?_⟩
        convert finished using 1
        simp [afterDiscovery, goes, hshared, hcount, hfree, hscans, Monitor.adoptPatch]

end AtOnce

section Containment

/-- Calls that fail leave no trace, and one at a time is under way. -/
structure Contained (p : Profile L σ) (acts : List (ServiceAct L σ)) (s : SharedService L) :
    Prop where
  /-- Nothing that a failed call has done has left a trace. -/
  failed (k : ℕ) (f : Failure) : .goes k (.ended (.error f)) ∈ acts →
    ∀ {phase}, .goes k phase ∈ acts → Traceless p (.goes k phase)
  taken_iff : s.scanning = true ↔ ∃ k, s.UnderWay k
  eq_of_underWay {i j : ℕ} : s.UnderWay i → s.UnderWay j → i = j
  /-- While another is under way a call is refused, and can do nothing else. -/
  refused (k : ℕ) : s.calls k = some .called → (∃ j, s.UnderWay j) →
    ∃ f, f = .refused (.scanInProgress p.name) ∧
      Step p s (.goes k (.ended (.error f))) (s.goes k (.ended (.error f))) ∧
      ∀ {phase s'}, Step p s (.goes k phase) s' → phase = .ended (.error f)
  /-- While none is under way a call is not refused. -/
  admitted (k : ℕ) : s.calls k = some .called → (∀ j, ¬ s.UnderWay j) →
    (∃ s', Step p s (.goes k .searching) s') ∧
      ∀ {phase s'}, Step p s (.goes k phase) s' → phase = .searching

/-- A call that is not yet under way can do one thing only. -/
theorem Step.of_called {phase' : DiscoveryPhase L} (step : Step p s (.goes k phase') s')
    (called : s.calls k = some .called) :
    phase' = if s.scanning then .ended (.error (.refused (.scanInProgress p.name)))
      else .searching := by
  cases step with
  | call new => simp [called] at new
  | enter _ free => simp [free]
  | refuse _ taken refusal => simp [taken, refusal]
  | fail searching => simp [called] at searching
  | find searching => simp [called] at searching
  | patch holding => simp [called] at holding
  | release patching => simp [called] at patching
  | count patched => simp [called] at patched
  | tell counted => simp [called] at counted
  | finish told => simp [called] at told

theorem contained_of_run {s₀ : SharedService L} (quiet : s₀.Quiet)
    (run : Runs (Step p) s₀ acts s) : Contained p acts s := by
  have recorded : Recorded acts s := by
    refine run.keeps ⟨fun _ _ => by simp, fun _ _ => by simp, by simp⟩ fun h step => h.step step
  have exclusive : s.Exclusive := run.preserves quiet.exclusive fun h step => h.step step
  have taken_iff : s.scanning = true ↔ ∃ k, s.UnderWay k := by
    rcases exclusive with ⟨htaken, k, hk⟩ | ⟨hfree, hnone⟩
    · exact iff_of_true htaken ⟨k, (hk k).2 rfl⟩
    · simp [hfree, hnone]
  refine ⟨fun k f hended phase hphase => ?_, taken_iff, fun {i j} hi hj => ?_,
    fun k called hsome => ?_, fun k called hnone => ?_⟩
  · exact traceless_goes (recorded.untouching (recorded.ended hended) trivial hphase)
  · rcases exclusive with ⟨-, k, hk⟩ | ⟨-, hnone⟩
    · exact ((hk i).1 hi).trans ((hk j).1 hj).symm
    · exact absurd hi (hnone i)
  · have htaken := taken_iff.2 hsome
    refine ⟨_, rfl, .refuse called htaken rfl, fun step => ?_⟩
    rw [step.of_called called, if_pos htaken]
  · have hfree : s.scanning = false := by
      rw [Bool.eq_false_iff]
      exact fun htaken => (taken_iff.1 htaken).elim hnone
    refine ⟨⟨_, .enter called hfree⟩, fun step => ?_⟩
    rw [step.of_called called, hfree]
    rfl

/-- However the endpoint answers and breaks, a discovery that fails leaves the resources, the
queues and the number of scans as they were and tells nobody; a call while another is under way
is refused, be it from another thread or from a listener; and when none is under way any more
the next one may start. -/
theorem discovery_contained (p : Profile L σ) :
    (∀ {τ : Type} depth now (listen : Listener L σ τ) m t,
      Monitor.Contained p depth now listen m t) ∧
    ∀ {s₀ s : SharedService L} {acts : List (ServiceAct L σ)}, s₀.Quiet →
      Runs (Step p) s₀ acts s → Contained p acts s :=
  ⟨Monitor.contained_discover p, contained_of_run⟩

/-- A call is refused while another one searches the endpoint. -/
theorem discovery_contained_twoCalls :
    let p := Monitor.heldInMemory [SharedMonitor.measuredAtX]
    let inProgress : Failure := .refused (.scanInProgress "e")
    let acts : List (ServiceAct _ _) := [.goes 0 .called, .goes 0 .searching, .goes 1 .called,
      .goes 1 (.ended (.error inProgress))]
    Monitor.Contained p 1 0 (fun _ s => s) (Monitor.start SharedMonitor.loadedNode) () ∧
      ({} : SharedService ManagementAddress).Quiet ∧ ∃ s, Runs (Step p) {} acts s ∧
        Contained p acts s ∧ s.UnderWay 0 ∧ s.calls 1 = some (.ended (.error inProgress)) := by
  intro p inProgress acts
  have quiet : ({} : SharedService ManagementAddress).Quiet := ⟨rfl, fun _ => rfl⟩
  have run := (((Runs.start : Runs (Step p) {} [] {}).snoc (.call (k := 0) (quiet.uncalled 0))).snoc
    (.enter (k := 0) rfl rfl)).snoc (.call (k := 1) rfl)
  have refused := run.snoc (.refuse (k := 1) rfl rfl rfl)
  exact ⟨(discovery_contained p).1 1 0 _ _ _, quiet, _, refused,
    (discovery_contained p).2 quiet refused, ⟨.searching, rfl, trivial⟩, rfl⟩

end Containment

end SharedService

end EndpointMonitor
