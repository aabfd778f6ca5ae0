import EndpointMonitor.Proofs.Monitor.Findings
import EndpointMonitor.Proofs.Monitor.SharedMonitor
import EndpointMonitor.Proofs.Schedule.Pacing

/-!
# How often measurements are collected

A type graph keeps no measurement whose interval is below its minimum, and a scan makes
measurements of these types only. So whatever happens to the resources, no measurement is
collected twice within the minimum, nor within the minimum after its resource was put in.
-/

namespace EndpointMonitor

open ResourceGraph

variable {L σ : Type} {gap : Nat}

/-- The measurements of a type have intervals no shorter than a gap. -/
structure ResourceType.Slow (gap : Nat) (t : ResourceType L) : Prop where
  metrics : ∀ m ∈ t.metrics, gap ≤ m.interval.millis.toNat
  avails : ∀ a ∈ t.avails, gap ≤ a.interval.millis.toNat

/-- A type graph keeps measurements with long intervals only. -/
theorem TypeGraph.slow_of_build {sets : List (TypeSet L)} {use : Option (List String)}
    {minMillis : UInt64} {g : TypeGraph L} (h : build sets use minMillis = .ok g) :
    ∀ t ∈ g.types, t.Slow minMillis.toNat := by
  intro t ht
  obtain ⟨-, d, -, -, rfl⟩ := (mem_types_build_iff h t).1 ht
  constructor
  · intro m hm
    exact UInt64.le_iff_toNat_le.1 (of_decide_eq_true (List.mem_filter.1 hm).2)
  · intro a ha
    exact UInt64.le_iff_toNat_le.1 (of_decide_eq_true (List.mem_filter.1 ha).2)

namespace Profile

open Conversation

variable [Location L] (p : Profile L σ)

/-- The measurements of a resource are of the types that were looked for. -/
theorem meets_instances_type {D : Type} (r : Resource L) (id : String → String → String)
    (ts : List (MeasurementType L D)) :
    Meets (fun _ => True) (instances p r id ts) (fun ms => ∀ m ∈ ms, m.type ∈ ts)
      (fun _ => True) := by
  refine meets_instances p r id fun t ht => ?_
  refine (meets_instance? p r id t (meets_ask_any _ _ trivial)).imp fun found h m hm => ?_
  obtain ⟨rfl, -⟩ := h m hm
  exact ht

/-- Resources of a type with long intervals have long intervals. -/
theorem meets_resourceAt_slow (parent : Option (Resource L)) {t : ResourceType L}
    (ht : t.Slow gap) (node : L) :
    Meets (fun _ => True) (resourceAt p parent t node)
      (fun r => r.Slow MetricDetail gap ∧ r.Slow AvailDetail gap) (fun _ => True) := by
  refine meets_resourceAt_of p (attended_any trivial) (meets_instances_type p _ _ _)
    (meets_instances_type p _ _ _) fun _ _ _ hmetrics havails => ⟨fun m hm => ?_, fun a ha => ?_⟩
  · exact ht.metrics _ (hmetrics m hm)
  · exact ht.avails _ (havails a ha)

/-- All that was found has long intervals. -/
def SlowFound (gap : Nat) (found : Found L) : Prop :=
  ∀ r ∈ found.resources, r.Slow MetricDetail gap ∧ r.Slow AvailDetail gap

variable {p}

theorem Finds.slow (htypes : ∀ t ∈ p.types.types, t.Slow gap) {depth : Nat} {x : Exchange σ}
    {found : Found L} (h : p.Finds depth x found) : SlowFound gap found :=
  h.forall_mem (consulted_any trivial)
    (fun t ht parent node => meets_resourceAt_slow p parent (htypes t ht) node) trivial

end Profile

section Events

/-- What is put in because of a change was added or replaced something. -/
theorem GraphEvent.enter_mem_duties_iff {r : Resource L} {e : GraphEvent L} :
    .enter r ∈ e.duties ↔ e = .added r ∨ e = .modified r := by
  cases e <;> simp [GraphEvent.duties, eq_comm]

variable [Location L]

theorem ResourceGraph.events_add {g : ResourceGraph L} {r : Resource L} {e : GraphEvent L}
    (he : e ∈ (g.add r).events) : e = .added r ∨ e = .modified r := by
  unfold ResourceGraph.add at he
  split at he
  · exact Or.inl (List.mem_singleton.1 he)
  · split at he
    · simp at he
    · exact Or.inr (List.mem_singleton.1 he)

theorem Patch.enter_mem_foldl_add {patch : Patch L} {rs : List (Resource L)} {r : Resource L}
    (hr : .enter r ∈ (rs.foldl Patch.add patch).events.flatMap GraphEvent.duties) :
    r ∈ rs ∨ .enter r ∈ patch.events.flatMap GraphEvent.duties := by
  induction rs generalizing patch with
  | nil => exact Or.inr hr
  | cons head rest ih =>
      rcases ih hr with hrest | hhead
      · exact Or.inl (List.mem_cons_of_mem _ hrest)
      · rw [Patch.add, List.flatMap_append, List.mem_append] at hhead
        refine hhead.symm.imp_left fun hhead => ?_
        obtain ⟨e, he, hmem⟩ := List.mem_flatMap.1 hhead
        rcases GraphEvent.enter_mem_duties_iff.1 hmem with rfl | rfl
        · rcases events_add he with heq | heq
          · cases heq
            exact List.mem_cons_self
          · cases heq
        · rcases events_add he with heq | heq
          · cases heq
          · cases heq
            exact List.mem_cons_self

omit [Location L] in
theorem not_enter_mem_removed {rs : List (Resource L)} {r : Resource L} :
    .enter r ∉ (rs.map GraphEvent.removed).flatMap GraphEvent.duties := by
  simp [GraphEvent.duties]

/-- Only what was found is put in. -/
theorem Patch.mem_of_enter_ofFound {g : ResourceGraph L} {found : Found L} {r : Resource L}
    (hr : .enter r ∈ (Patch.ofFound g found).events.flatMap GraphEvent.duties) :
    r ∈ found.resources := by
  have adding : ∀ {r : Resource L}, .enter r ∈ (found.resources.foldl Patch.add
      { graph := g }).events.flatMap GraphEvent.duties → r ∈ found.resources := fun hr =>
    (enter_mem_foldl_add hr).resolve_right (by simp)
  unfold Patch.ofFound at hr
  split at hr
  · rw [Patch.remove, List.flatMap_append, List.mem_append] at hr
    exact adding (hr.resolve_right not_enter_mem_removed)
  · exact adding hr

/-- An operation puts in resources with long intervals only. -/
theorem ServiceCall.slow_change {p : Profile L σ} (htypes : ∀ t ∈ p.types.types, t.Slow gap)
    (g : ResourceGraph L) (c : ServiceCall L σ) {r : Resource L}
    (hr : .enter r ∈ (c.change p g).2.flatMap GraphEvent.duties) :
    r.Slow MetricDetail gap ∧ r.Slow AvailDetail gap := by
  cases c with
  | discover depth x =>
      rcases change_discover_cases p g depth x with ⟨found, hfinds⟩ | hnone
      · rw [change_discover_of_finds hfinds] at hr
        exact hfinds.slow htypes r (Patch.mem_of_enter_ofFound hr)
      · simp [hnone] at hr
  | removeCovered query => exact absurd hr not_enter_mem_removed
  | clear => exact absurd hr not_enter_mem_removed

end Events

namespace MonitorAct

/-- The step of the queue of the metrics, if it is one. -/
def metrics? : MonitorAct L σ → Option (QueueAct L MetricDetail)
  | .metrics act => some act
  | .call _ => none
  | .avails _ => none

/-- The step of the queue of the availabilities, if it is one. -/
def avails? : MonitorAct L σ → Option (QueueAct L AvailDetail)
  | .avails act => some act
  | .call _ => none
  | .metrics _ => none

/-- The reading of the clock that a step makes. -/
def reading? : MonitorAct L σ → Option UInt64
  | .metrics act => act.reading?
  | .avails act => act.reading?
  | .call _ => none

/-- The readings of the clock, in the order in which they are made. -/
def readings (acts : List (MonitorAct L σ)) : List UInt64 :=
  acts.filterMap reading?

variable {acts : List (MonitorAct L σ)}

/-- A clock that never goes back does not go back for the steps of one queue. -/
theorem clock_filterMap {D : Type} {own? : MonitorAct L σ → Option (QueueAct L D)}
    (hown : ∀ {a act}, own? a = some act → a.reading? = act.reading?)
    (clock : (readings acts).Pairwise (· ≤ ·)) :
    (QueueAct.readings (acts.filterMap own?)).Pairwise (· ≤ ·) := by
  rw [readings, List.pairwise_filterMap] at clock
  rw [QueueAct.readings, List.pairwise_filterMap, List.pairwise_filterMap]
  refine clock.imp fun {a b} hab act hact act' hact' t ht t' ht' => ?_
  exact hab t ((hown hact).trans ht) t' ((hown hact').trans ht')

theorem reading?_of_metrics? {a : MonitorAct L σ} {act : QueueAct L MetricDetail}
    (h : a.metrics? = some act) : a.reading? = act.reading? := by
  cases a with
  | call _ | avails _ => cases h
  | metrics _ =>
      cases h
      rfl

theorem reading?_of_avails? {a : MonitorAct L σ} {act : QueueAct L AvailDetail}
    (h : a.avails? = some act) : a.reading? = act.reading? := by
  cases a with
  | call _ | metrics _ => cases h
  | avails _ =>
      cases h
      rfl

end MonitorAct

namespace SharedMonitor

open MonitorAct QueueAct

variable [Location L] {p : Profile L σ} {s s' : SharedMonitor L} {acts : List (MonitorAct L σ)}

/-- Both queues have spaced all collections. -/
structure Paced (gap : Nat) (acts : List (MonitorAct L σ)) (s : SharedMonitor L) : Prop where
  metrics : s.metrics.Paced gap (acts.filterMap metrics?)
  avails : s.avails.Paced gap (acts.filterMap avails?)

theorem Paced.step (h : Paced gap acts s) (sound : s.Sound)
    (htypes : ∀ t ∈ p.types.types, t.Slow gap) {act : MonitorAct L σ} (step : Step p s act s')
    (clock : (MonitorAct.readings (acts ++ [act])).Pairwise (· ≤ ·)) :
    Paced gap (acts ++ [act]) s' := by
  have metricClock := clock_filterMap reading?_of_metrics? clock
  have availClock := clock_filterMap reading?_of_avails? clock
  constructor
  · rw [List.filterMap_append] at metricClock ⊢
    cases step with
    | call c idle =>
        simp only [List.filterMap_cons, List.filterMap_nil, MonitorAct.metrics?, List.append_nil]
        exact h.metrics.tell idle.1 fun r hr => (c.slow_change htypes s.graph hr).1
    | metrics step => exact h.metrics.step sound.metrics step metricClock
    | avails step =>
        simp only [List.filterMap_cons, List.filterMap_nil, MonitorAct.metrics?, List.append_nil]
        exact h.metrics
  · rw [List.filterMap_append] at availClock ⊢
    cases step with
    | call c idle =>
        simp only [List.filterMap_cons, List.filterMap_nil, MonitorAct.avails?, List.append_nil]
        exact h.avails.tell idle.2 fun r hr => (c.slow_change htypes s.graph hr).2
    | avails step => exact h.avails.step sound.avails step availClock
    | metrics step =>
        simp only [List.filterMap_cons, List.filterMap_nil, MonitorAct.avails?, List.append_nil]
        exact h.avails

theorem paced_of_run (htypes : ∀ t ∈ p.types.types, t.Slow gap) (run : Runs (Step p) {} acts s)
    (clock : (MonitorAct.readings acts).Pairwise (· ≤ ·)) : Paced gap acts s := by
  induction run with
  | start => exact ⟨QueueShare.paced_empty, QueueShare.paced_empty⟩
  | snoc run step ih =>
      have before := clock.sublist ((List.sublist_append_left _ _).filterMap _)
      exact (ih before).step (sound_of_run run) htypes step clock

/-- With a clock that never goes back, no collection takes a measurement sooner than the
minimum of the type graph after another collection took it, nor after its resource was put in,
for the first time or again. This holds up to the last moment of the clock. -/
theorem collections_spaced {sets : List (TypeSet L)} {use : Option (List String)}
    {minMillis : UInt64} (hbuild : TypeGraph.build sets use minMillis = .ok p.types)
    (run : Runs (Step p) {} acts s) (clock : (MonitorAct.readings acts).Pairwise (· ≤ ·)) :
    (acts.filterMap metrics?).Pairwise (Spaced minMillis.toNat) ∧
      (acts.filterMap avails?).Pairwise (Spaced minMillis.toNat) := by
  have paced := paced_of_run (TypeGraph.slow_of_build hbuild) run clock
  exact ⟨paced.metrics.spaced, paced.avails.spaced⟩

section Measured

open Monitor

/-- What a discovery of the endpoint with one node finds. -/
def loadedResource : Resource ManagementAddress :=
  { (heldInMemory [measuredAtX]).outline none measuredAtX ⟨[⟨"x", "1"⟩]⟩ with
    metrics := measuredAtX.metrics.map fun t =>
      { id := metricInstanceId "f~e~/x=1" t.name
        location := ⟨⟨[⟨"x", "1"⟩]⟩, "load", none⟩
        type := t } }

theorem finds_loadedResource : (heldInMemory [measuredAtX]).Finds 1 { peer := loadedNode }
    ⟨[loadedResource], 0⟩ := by
  unfold Profile.Finds
  rfl

theorem collections_spaced_everySecond :
    let p := heldInMemory [measuredAtX]
    let q : CollectionQueue ManagementAddress MetricDetail :=
      CollectionQueue.schedule {} (QueueEntry.ofResource 0 loadedResource)
    let load : MeasurementKey := ⟨"f~e~/x=1", "MI~R~[f~e~/x=1]~MT~load"⟩
    let acts : List (MonitorAct ManagementAddress (InMemory ManagementAddress)) :=
      [.call (.discover 1 { peer := loadedNode }), .metrics (.read 0),
        .metrics (.enter 0 loadedResource), .metrics (.look 1000),
        .metrics (.pop 1000 (q.pop 1000).2), .metrics (.look 2000),
        .metrics (.pop 2000 ((q.pop 1000).1.pop 2000).2)]
    TypeGraph.build [⟨"s", true, [measuredAtX]⟩] none 1000 = .ok p.types ∧
      (∃ s, Runs (Step p) {} acts s) ∧ (MonitorAct.readings acts).Pairwise (· ≤ ·) ∧
      (q.pop 1000).2.map (·.id) = [load] ∧
      ((q.pop 1000).1.pop 2000).2.map (·.id) = [load] ∧
      (acts.filterMap metrics?).Pairwise (Spaced 1000) := by
  intro p q load acts
  have hbuild : TypeGraph.build [⟨"s", true, [measuredAtX]⟩] none 1000 = .ok p.types := by
    have sorted : TypeGraph.candidates 1000
        (Declaration.ofSets [⟨"s", true, [measuredAtX]⟩] none) = [measuredAtX] :=
      List.mergeSort_of_pairwise (by decide +kernel)
    rw [TypeGraph.build, sorted]
    rfl
  have duties : ((ServiceCall.discover 1 { peer := loadedNode }).change p {}).2.flatMap
      GraphEvent.duties = [.enter loadedResource] := by
    rw [ServiceCall.change_discover_of_finds finds_loadedResource]
    rfl
  have run : ∃ s, Runs (Step p) {} acts s := by
    have called : Runs (Step p) {} [.call (.discover 1 { peer := loadedNode })] _ :=
      Runs.start.snoc (.call _ ⟨rfl, rfl⟩)
    have read := called.snoc (.metrics (.read 0 duties rfl))
    have entered := read.snoc (.metrics (.enter duties rfl))
    have first := (entered.snoc (.metrics (.look 1000))).snoc (.metrics (.pop List.mem_cons_self))
    have second := (first.snoc (.metrics (.look 2000))).snoc (.metrics (.pop List.mem_cons_self))
    exact ⟨_, second⟩
  have clock : (MonitorAct.readings acts).Pairwise (· ≤ ·) := by decide
  obtain ⟨s, run⟩ := run
  exact ⟨hbuild, ⟨s, run⟩, clock, by decide +kernel, by decide +kernel,
    (collections_spaced hbuild run clock).1⟩

end Measured

end SharedMonitor

end EndpointMonitor
