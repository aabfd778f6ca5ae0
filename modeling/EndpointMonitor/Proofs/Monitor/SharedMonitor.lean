import EndpointMonitor.Proofs.Monitor.Rediscovery
import EndpointMonitor.Proofs.Schedule.Mirroring

/-!
# A monitor that is shared

The operations on the resources take turns, and each tells both queues of every change. While
the queues follow, others take what is due from them. The queues agree with the resources
whenever no operation is in progress, and during one they agree about everything that they
have nothing left to do about.
-/

namespace EndpointMonitor

open ResourceGraph

variable {L σ : Type}

/-- An operation that may change the resources. -/
inductive ServiceCall (L σ : Type) where
  /-- A discovery, with the greatest depth of its scan and the exchange it begins with. -/
  | discover (depth : Nat) (x : Exchange σ)
  | removeCovered (query : L)
  | clear

namespace ServiceCall

variable [Location L]

/-- What an operation makes of the resources, and the events that observers hear. A discovery
whose scan has no result changes nothing. -/
def change (p : Profile L σ) (g : ResourceGraph L) :
    ServiceCall L σ → ResourceGraph L × List (GraphEvent L)
  | .discover depth x =>
    match ((p.scanReady depth).run x).1 with
    | .ok (.ok found) => ((Patch.ofFound g found).graph, (Patch.ofFound g found).events)
    | .ok (.error _) => (g, [])
    | .error _ => (g, [])
  | .removeCovered query => ((g.removeCovered query).1, (g.removeCovered query).2.map .removed)
  | .clear => (g.clear.1, g.clear.2.map .removed)

variable {p : Profile L σ} {g : ResourceGraph L}

theorem change_discover_of_finds {depth : Nat} {x : Exchange σ} {found : Found L}
    (h : p.Finds depth x found) : (ServiceCall.discover depth x).change p g =
      ((Patch.ofFound g found).graph, (Patch.ofFound g found).events) := by
  unfold Profile.Finds at h
  simp only [change, h]

/-- A discovery has a result, or changes nothing. -/
theorem change_discover_cases (p : Profile L σ) (g : ResourceGraph L) (depth : Nat)
    (x : Exchange σ) :
    (∃ found, p.Finds depth x found) ∨ (ServiceCall.discover depth x).change p g = (g, []) := by
  rcases hrun : ((p.scanReady depth).run x).1 with b | e | found
  · exact Or.inr (by simp only [change, hrun])
  · exact Or.inr (by simp only [change, hrun])
  · exact Or.inl ⟨found, hrun⟩

end ServiceCall

section Patching

variable [Location L]

theorem Patch.replays_foldl_add {v : View L} {p : Patch L} (h : Linked p.graph)
    (hp : Replays v p.events p.graph.get?) (rs : List (Resource L)) :
    Replays v (rs.foldl Patch.add p).events (rs.foldl Patch.add p).graph.get? := by
  induction rs generalizing p with
  | nil => exact hp
  | cons r rest ih => exact ih (linked_add h r) (hp.append (h.replays_add r))

/-- The events of a patch tell of all that it does. -/
theorem Patch.replays_ofFound {g : ResourceGraph L} (h : Linked g) (found : Found L) :
    Replays g.get? (Patch.ofFound g found).events (Patch.ofFound g found).graph.get? := by
  have hlinked := Patch.linked_foldl_add (p := { graph := g }) h found.resources
  have adding := Patch.replays_foldl_add (p := { graph := g }) h .done found.resources
  unfold Patch.ofFound
  split
  · exact adding.append (hlinked.replays_removeAll _)
  · exact adding

theorem ServiceCall.linked_change {p : Profile L σ} {g : ResourceGraph L} (h : Linked g)
    (c : ServiceCall L σ) : Linked (c.change p g).1 := by
  cases c with
  | discover depth x =>
      rcases change_discover_cases p g depth x with ⟨found, hfinds⟩ | hnone
      · rw [change_discover_of_finds hfinds]
        exact Patch.linked_ofFound h found
      · rw [hnone]
        exact h
  | removeCovered query => exact h.linked_removeCovered query
  | clear => exact h.linked_clear

/-- The events of an operation tell of all that it does. -/
theorem ServiceCall.replays_change {p : Profile L σ} {g : ResourceGraph L} (h : Linked g)
    (c : ServiceCall L σ) : Replays g.get? (c.change p g).2 (c.change p g).1.get? := by
  cases c with
  | discover depth x =>
      rcases change_discover_cases p g depth x with ⟨found, hfinds⟩ | hnone
      · rw [change_discover_of_finds hfinds]
        exact Patch.replays_ofFound h found
      · rw [hnone]
        exact .done
  | removeCovered query => exact h.replays_removeAll _
  | clear => exact h.replays_removeAll _

end Patching

/-- The resources of an endpoint with the queues that follow them. -/
structure SharedMonitor (L : Type) where
  graph : ResourceGraph L := {}
  metrics : QueueShare L MetricDetail := {}
  avails : QueueShare L AvailDetail := {}

/-- A monitor whose queues have nothing to do. -/
def Monitor.shared (m : Monitor L σ) : SharedMonitor L where
  graph := m.graph
  metrics := { queue := m.metrics }
  avails := { queue := m.avails }

/-- A step of a shared monitor. -/
inductive MonitorAct (L σ : Type) where
  | call (c : ServiceCall L σ)
  | metrics (act : QueueAct L MetricDetail)
  | avails (act : QueueAct L AvailDetail)

namespace SharedMonitor

/-- No operation on the resources is in progress. -/
def Idle (s : SharedMonitor L) : Prop :=
  s.metrics.duties = [] ∧ s.avails.duties = []

/-- The links are in order, and both queues follow the resources. -/
structure Sound (s : SharedMonitor L) : Prop where
  linked : Linked s.graph
  metrics : s.metrics.Follows s.graph.get?
  avails : s.avails.Follows s.graph.get?

theorem sound_empty : Sound ({} : SharedMonitor L) where
  linked := linked_empty
  metrics := QueueShare.follows_empty
  avails := QueueShare.follows_empty

variable [Location L]

/-- What a step does. An operation begins once both queues have followed the one before it. -/
inductive Step (p : Profile L σ) :
    SharedMonitor L → MonitorAct L σ → SharedMonitor L → Prop
  | call {s : SharedMonitor L} (c : ServiceCall L σ) (idle : s.Idle) :
      Step p s (.call c)
        { graph := (c.change p s.graph).1
          metrics := s.metrics.tell (c.change p s.graph).2
          avails := s.avails.tell (c.change p s.graph).2 }
  | metrics {s : SharedMonitor L} {act t} (step : s.metrics.Step act t) :
      Step p s (.metrics act) { s with metrics := t }
  | avails {s : SharedMonitor L} {act t} (step : s.avails.Step act t) :
      Step p s (.avails act) { s with avails := t }

variable {p : Profile L σ} {s s' : SharedMonitor L} {acts : List (MonitorAct L σ)}

section Agreement

theorem Sound.step (h : s.Sound) {act : MonitorAct L σ} (step : Step p s act s') : s'.Sound := by
  cases step with
  | call c idle =>
      have replays := c.replays_change (p := p) h.linked
      exact ⟨c.linked_change h.linked, h.metrics.tell idle.1 replays,
        h.avails.tell idle.2 replays⟩
  | metrics step => exact ⟨h.linked, h.metrics.step step, h.avails⟩
  | avails step => exact ⟨h.linked, h.metrics, h.avails.step step⟩

theorem sound_of_run (run : Runs (Step p) {} acts s) : s.Sound :=
  run.preserves sound_empty fun h step => h.step step

end Agreement

section AtOnce

/-- What a queue does alone is a part of what the monitor does. -/
theorem reaches_metrics {t : QueueShare L MetricDetail} (h : Reaches QueueShare.Step s.metrics t) :
    Reaches (Step p) s { s with metrics := t } :=
  h.lift (fun t => { s with metrics := t }) fun _ act _ step => ⟨.metrics act, .metrics step⟩

theorem reaches_avails {t : QueueShare L AvailDetail} (h : Reaches QueueShare.Step s.avails t) :
    Reaches (Step p) s { s with avails := t } :=
  h.lift (fun t => { s with avails := t }) fun _ act _ step => ⟨.avails act, .avails step⟩

/-- What an operation of a monitor does at once is a run in which nothing comes between. -/
theorem run_of_call {m : Monitor L σ} (run : Runs (Step p) s acts m.shared) (c : ServiceCall L σ)
    (now : UInt64) : ∃ acts', Runs (Step p) s acts'
      (Monitor.observe now { m with graph := (c.change p m.graph).1 }
        (c.change p m.graph).2).shared := by
  have called := run.snoc (.call c ⟨rfl, rfl⟩)
  obtain ⟨_, followed⟩ := called.extend
    (reaches_metrics (QueueShare.reaches_observe now (c.change p m.graph).2 rfl))
  obtain ⟨_, followed⟩ := followed.extend
    (reaches_avails (QueueShare.reaches_observe now (c.change p m.graph).2 rfl))
  exact ⟨_, followed⟩

theorem shared_adopt (p : Profile L σ) (now : UInt64) (m : Monitor L σ) (found : Found L) :
    (m.adopt p now found).1.shared =
      (m.adoptPatch now (Patch.ofFound m.graph found)).shared := by
  unfold Monitor.adopt
  split <;> rfl

/-- A discovery without a report leaves the resources and the queues as they were. -/
theorem shared_discover_of_error {depth : Nat} {now : UInt64} {τ : Type}
    {listen : Listener L σ τ} {m m' : Monitor L σ} {t t' : τ} {f : Failure}
    (h : Monitor.discover p depth now listen (m, t) = (.error f, m', t')) :
    m'.shared = m.shared := by
  unfold Monitor.discover Monitor.search at h
  cases hscanning : m.scanning with
  | true =>
      simp only [hscanning, if_true] at h
      cases h
      rfl
  | false =>
      rcases hrun : (p.scanReady depth).run m.exchange with ⟨b | e | found, y⟩
      · simp only [hscanning, hrun, Bool.false_eq_true, if_false] at h
        cases h
        rfl
      · simp only [hscanning, hrun, Bool.false_eq_true, if_false] at h
        cases h
        rfl
      · simp only [hscanning, hrun, Bool.false_eq_true, if_false] at h
        cases h

/-- A discovery, with or without a report, is such a run. -/
theorem run_discover {m : Monitor L σ} (run : Runs (Step p) s acts m.shared) (depth : Nat)
    (now : UInt64) {τ : Type} (t : τ) : ∃ acts',
      Runs (Step p) s acts' (Monitor.discover p depth now (fun _ x => x) (m, t)).2.1.shared := by
  rcases houtcome : Monitor.discover p depth now (fun _ x => x) (m, t) with ⟨f | report, m', t'⟩
  · rw [shared_discover_of_error houtcome]
    exact ⟨acts, run⟩
  · obtain ⟨-, found, hfinds, -, hm', -⟩ := Monitor.discover_ok_cases houtcome
    have shared : m'.shared = (m.adoptPatch now (Patch.ofFound m.graph found)).shared := by
      rw [hm', Monitor.announce]
      split
      · exact shared_adopt p now _ found
      · exact shared_adopt p now _ found
    have change := ServiceCall.change_discover_of_finds (g := m.graph) hfinds
    have called := run_of_call run (.discover depth m.exchange) now
    rw [change] at called
    rw [shared]
    exact called

theorem run_removeCovered {m : Monitor L σ} (run : Runs (Step p) s acts m.shared) (now : UInt64)
    (query : L) : ∃ acts', Runs (Step p) s acts' (m.removeCovered now query).1.shared :=
  run_of_call run (.removeCovered query) now

theorem run_clear {m : Monitor L σ} (run : Runs (Step p) s acts m.shared) (now : UInt64) :
    ∃ acts', Runs (Step p) s acts' (m.clear now).1.shared :=
  run_of_call run .clear now

end AtOnce

/-- Whenever no operation is in progress, both queues hold exactly the measurements of the
stored resources, and a collection takes nothing else. During an operation this holds for every
identifier that a queue has nothing left to do about: once it has dropped a resource that the
operation removes, no collection brings it back. -/
theorem queues_mirror_graph (run : Runs (Step p) {} acts s) :
    (s.Idle → s.metrics.queue.Mirrors s.graph (fun _ => True) ∧
      s.avails.queue.Mirrors s.graph (fun _ => True)) ∧
    s.metrics.queue.Mirrors s.graph s.metrics.Heard ∧
      s.avails.queue.Mirrors s.graph s.avails.Heard := by
  have sound := sound_of_run run
  have metrics := sound.metrics.mirrors
  have avails := sound.avails.mirrors
  refine ⟨fun idle => ⟨?_, ?_⟩, metrics, avails⟩
  · exact metrics.mono fun x _ => QueueShare.heard_of_idle idle.1 x
  · exact avails.mono fun x _ => QueueShare.heard_of_idle idle.2 x

section Measured

open Monitor

/-- A type of resources at the nodes below `/x` with a metric that is collected every second. -/
def measuredAtX : ResourceType ManagementAddress :=
  { typeAtX "A" with
    metrics := [{
      name := "load"
      location := ⟨⟨[]⟩, "load", none⟩
      interval := .seconds 1
      detail := ⟨.gauge, "none"⟩ }] }

/-- An endpoint with one node that has the attribute of the metric. -/
def loadedNode : InMemory ManagementAddress :=
  oneNode.setAttribute ⟨[⟨"x", "1"⟩]⟩ "load" .null

theorem queues_mirror_graph_discovered :
    let s := (discoverUnheard [measuredAtX] (Monitor.start loadedNode)).2.1.shared
    (∃ acts, Runs (Step (heldInMemory [measuredAtX])) {} acts s) ∧
      s.metrics.queue.toList.map (·.id) =
        [⟨"f~e~/x=1", "MI~R~[f~e~/x=1]~MT~load"⟩] ∧
      s.metrics.queue.Mirrors s.graph fun _ => True := by
  intro s
  obtain ⟨acts, run⟩ := run_discover (m := Monitor.start loadedNode)
    (p := heldInMemory [measuredAtX]) .start 1 0 ()
  refine ⟨⟨acts, run⟩, by decide +kernel, ?_⟩
  exact ((queues_mirror_graph run).1 ⟨rfl, rfl⟩).1

end Measured

end SharedMonitor

end EndpointMonitor
