import EndpointMonitor.Proofs.Monitor.PatchEvents
import EndpointMonitor.Proofs.Schedule.DueTimes
import EndpointMonitor.Proofs.Schedule.StoppedEndpoint

/-!
# What a scan does to the due times

A scan leaves the due times of a resource alone unless it finds the resource modified. Then all
of its measurements start anew, although nothing about them may have changed: scanned often
enough, a resource that looks different each time is never collected.
-/

namespace EndpointMonitor

open ResourceGraph

variable {L σ τ : Type}

/-- A measurement that was scheduled before a scan and is still there after it is scheduled. It
has kept its due time exactly if its resource was not modified, or if it starts anew with the
same due time. -/
def CollectionQueue.RescheduledBy {D : Type} [MeasurementKind D] (now : UInt64)
    (change : InventoryChange L) (after : ResourceGraph L) (q q' : CollectionQueue L D) : Prop :=
  ∀ e ∈ q.toList, ∀ r, after.get? e.resource.id = some r →
    ∀ m ∈ MeasurementKind.instances (D := D) r, m.id = e.measurement.id →
      (∃ f ∈ q'.toList, f.id = e.id) ∧ ∀ f ∈ q'.toList, f.id = e.id →
        f.measurement ∈ MeasurementKind.instances r ∧
          (f.due = e.due ↔ ¬ change.modifies e.resource.id ∨
            nextDue now f.measurement.intervalMillis = e.due)

variable [Location L]

/-- A queue that holds stored measurements follows a patch. -/
theorem CollectionQueue.Knows.rescheduledBy {D : Type} [MeasurementKind D]
    {q : CollectionQueue L D} {g : ResourceGraph L} (h : q.Knows g.get?) (linked : Linked g)
    (now : UInt64) (found : Found L) : RescheduledBy now (Patch.ofFound g found).change
      (Patch.ofFound g found).graph q
      ((Patch.ofFound g found).events.foldl (CollectionQueue.observe now) q) := by
  intro e he r hr m hm hid
  have replays := Patch.replays_ofFound linked found
  have after := h.follow now replays
  have heard : (∃ event ∈ (Patch.ofFound g found).events, event.about = e.resource.id) ↔ _ :=
    Patch.heard_iff_modifies linked ((mem_nodes_iff g _).2 ⟨_, h.known he⟩)
      ((mem_nodes_iff _ _).2 ⟨r, hr⟩)
  have measured : ∀ {f}, f ∈ ((Patch.ofFound g found).events.foldl
      (CollectionQueue.observe now) q).toList → f.id = e.id →
      f.measurement ∈ MeasurementKind.instances r := by
    intro f hf hfe
    have hresource : f.resource.id = e.resource.id := congrArg MeasurementKey.resource hfe
    have hknown := after.known hf
    rw [hresource, hr, Option.some.injEq] at hknown
    exact hknown ▸ after.measured hf
  by_cases modified : (Patch.ofFound g found).change.modifies e.resource.id
  · obtain ⟨due, hasAll⟩ : Renewed now e.resource.id _ _ :=
      h.renewed_follow replays (.inr (heard.2 modified))
    refine ⟨?_, fun f hf hfe => ⟨measured hf hfe, ?_⟩⟩
    · obtain ⟨f, hf, hfid⟩ := hasAll hr hm
      exact ⟨f, hf, hfid.trans (by rw [hid]; rfl)⟩
    · rw [due hf (congrArg MeasurementKey.resource hfe)]
      exact (or_iff_right (not_not.2 modified)).symm
  · have unheard : ∀ event ∈ (Patch.ofFound g found).events, e.resource.id ≠ event.about :=
      fun event hevent heq => modified (heard.1 ⟨event, hevent, heq.symm⟩)
    refine ⟨⟨e, (h.inStep.mem_foldl_observe unheard).2 he, rfl⟩, fun f hf hfe =>
      ⟨measured hf hfe, ?_⟩⟩
    have hresource : f.resource.id = e.resource.id := congrArg MeasurementKey.resource hfe
    have hold := (h.inStep.mem_foldl_observe (hresource ▸ unheard)).1 hf
    rw [h.inStep.eq_of_id_eq hold he hfe]
    exact iff_of_true rfl (.inl modified)

namespace Monitor

variable {p : Profile L σ} {period : Option UInt64}

theorem shared_scanned (p : Profile L σ) (depth : Nat) (now : UInt64) (m : Monitor L σ)
    (found : Found L) : (scanned p depth now m found).shared =
      (m.adoptPatch now (Patch.ofFound m.graph found)).shared :=
  SharedMonitor.shared_adopt p now _ found

/-- Whatever has happened to an endpoint before, a discovery that fails keeps all due times, and
one that has a report keeps those of what it has not modified. What it has modified starts anew,
whatever was modified about it. -/
theorem discover_keepsDue_iff {acts : List (EndpointAct L σ)} {s : SharedEndpoint L}
    (run : Runs (SharedEndpoint.Step p period) {} acts s) {m : Monitor L σ}
    (hm : s.service.monitor = m.shared) (depth : Nat) (now : UInt64) (listen : Listener L σ τ)
    (t : τ) :
    (∀ f m' t', discover p depth now listen (m, t) = (.error f, m', t') →
      m'.shared = m.shared) ∧
    ∀ report m' t', discover p depth now listen (m, t) = (.ok report, m', t') →
      ∃ found, p.Finds depth m.exchange found ∧
        m' = { (announce listen report.change (scanned p depth now m found, t)).1 with
          scanning := false } ∧
        m.metrics.RescheduledBy now report.change (scanned p depth now m found).graph
          (scanned p depth now m found).metrics ∧
        m.avails.RescheduledBy now report.change (scanned p depth now m found).graph
          (scanned p depth now m found).avails := by
  have tidy := (SharedEndpoint.orderly_of_run run).service.tidy
  rw [hm] at tidy
  refine ⟨fun f m' t' => SharedMonitor.shared_discover_of_error, fun report m' t' hrun => ?_⟩
  obtain ⟨-, found, finds, rfl, hm', -⟩ := discover_ok_cases hrun
  have shared := shared_scanned p depth now m found
  have metrics : (scanned p depth now m found).metrics = _ :=
    congrArg (fun s => s.metrics.queue) shared
  have avails : (scanned p depth now m found).avails = _ :=
    congrArg (fun s => s.avails.queue) shared
  refine ⟨found, finds, hm', ?_, ?_⟩
  · rw [graph_scanned, metrics]
    exact (tidy.metrics.knows rfl).rescheduledBy tidy.linked now found
  · rw [graph_scanned, avails]
    exact (tidy.avails.knows rfl).rescheduledBy tidy.linked now found

section Versions

/-- A type of resources at the nodes below `/x` with a property and a metric that is collected
every five seconds. -/
def versionedAtX : ResourceType ManagementAddress :=
  { typeAtX "A" with
    metrics := [{
      name := "load"
      location := ⟨⟨[]⟩, "load", none⟩
      interval := .seconds 5
      detail := ⟨.gauge, "none"⟩ }]
    properties := [{ name := "version", location := ⟨⟨[]⟩, "version", none⟩ }] }

/-- An endpoint with one node that has a version. -/
def versionedNode (version : String) : InMemory ManagementAddress :=
  SharedMonitor.loadedNode.setAttribute ⟨[⟨"x", "1"⟩]⟩ "version" (.str version)

/-- Scan the node with a version at a time. -/
def discoverVersion (now : UInt64) (version : String)
    (m : Monitor ManagementAddress (InMemory ManagementAddress)) :
    Except Failure (ScanReport ManagementAddress) ×
      Monitor ManagementAddress (InMemory ManagementAddress) × Unit :=
  discover (heldInMemory [versionedAtX]) 1 now (fun _ s => s)
    ({ m with exchange := { peer := versionedNode version } }, ())

/-- The metrics with their intervals and due times. -/
def metricTimes (m : Monitor ManagementAddress (InMemory ManagementAddress)) :
    List (MeasurementKey × UInt64 × UInt64) :=
  m.metrics.toList.map fun e => (e.id, e.measurement.intervalMillis, e.due)

/-- A node that has the same version three seconds later keeps the due time of its metric. -/
theorem discover_keepsDue_iff_sameVersion :
    let p := heldInMemory [versionedAtX]
    let first := (discoverVersion 0 "1" (start (versionedNode "1"))).2.1
    (∃ acts s, Runs (SharedEndpoint.Step p none) {} acts s ∧
      s.service.monitor = first.shared) ∧
    ∃ report m', discoverVersion 3000 "1" first = (.ok report, m', ()) ∧
      first.metrics.RescheduledBy 3000 report.change m'.graph m'.metrics ∧
      report.change.modified.length = 0 ∧ metricTimes first = metricTimes m' := by
  intro p first
  have unmodified : (discoverVersion 3000 "1" first).1.toOption.map
      (·.change.modified.length) = some 0 := by decide +kernel
  have kept : metricTimes first = metricTimes (discoverVersion 3000 "1" first).2.1 := by
    decide +kernel
  obtain ⟨told, reaches⟩ := SharedService.reaches_discover (p := p)
    (s := ({} : SharedService ManagementAddress).goes 0 .called)
    (m := start (versionedNode "1")) rfl rfl rfl (SharedService.calls_goes _ 0 _) 1 0 ()
  obtain ⟨acts, s, -, run, -, hservice, -⟩ :=
    SharedEndpoint.exists_drop none reaches ⟨rfl, rfl⟩
  have once : discover p 1 0 (fun _ s => s) (start (versionedNode "1"), ()) =
      discoverVersion 0 "1" (start (versionedNode "1")) := rfl
  have hm : s.service.monitor = first.shared := by
    rw [hservice, SharedService.afterDiscovery, once]
  refine ⟨⟨acts, s, run, hm⟩, ?_⟩
  rcases hafter : discoverVersion 3000 "1" first with ⟨f | report, m', t'⟩
  · rw [hafter] at unmodified
    cases unmodified
  · rw [hafter] at unmodified kept
    obtain ⟨found, -, hm', metrics, -⟩ :=
      (discover_keepsDue_iff run (m := { first with
        exchange := { peer := versionedNode "1" } }) hm 1 3000 (fun _ s => s) ()).2
        report m' () hafter
    rw [announce_unheard] at hm'
    subst hm'
    exact ⟨report, _, rfl, metrics, Option.some.inj unmodified, kept⟩

/-- Three scans, each after three seconds and with another version: each puts the collection
off that was to come five seconds after the scan before, and nothing is collected. -/
theorem not_keepsDue_discover_versions :
    let first := (discoverVersion 0 "1" (start (versionedNode "1"))).2.1
    let second := (discoverVersion 3000 "2" first).2.1
    let third := (discoverVersion 6000 "3" second).2.1
    let load : MeasurementKey := ⟨"f~e~/x=1", "MI~R~[f~e~/x=1]~MT~load"⟩
    metricTimes first = [(load, 5000, 5000)] ∧ metricTimes second = [(load, 5000, 8000)] ∧
      metricTimes third = [(load, 5000, 11000)] ∧ (first.metrics.pop 3000).2.length = 0 ∧
      (second.metrics.pop 6000).2.length = 0 := by
  decide +kernel

end Versions

end Monitor

end EndpointMonitor
