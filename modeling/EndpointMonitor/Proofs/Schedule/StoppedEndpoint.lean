import EndpointMonitor.Proofs.Monitor.CollectionRate
import EndpointMonitor.Proofs.Monitor.Snapshots
import EndpointMonitor.Proofs.Schedule.Refilling

/-!
# Whether a stopped endpoint stays empty

Where a stop removes the resources, it decides whether the endpoint stays empty after it has
returned: the removal leaves what is in a loop, and it does not wait for a scan that is under way
on another thread. If there is neither, nothing is stored any more, so no queue is told of
anything, and both stay empty once they have been.
-/

namespace EndpointMonitor

open ResourceGraph

variable {L σ : Type}

section Nothing

variable {g : ResourceGraph L}

/-- From an empty graph nothing is removed. -/
theorem ResourceGraph.Linked.removeAll_of_size_eq_zero (h : Linked g) (hsize : g.size = 0)
    (ids : List String) : (g.removeAll ids).1.size = 0 ∧ (g.removeAll ids).2 = [] := by
  rw [size_eq_zero_iff] at hsize ⊢
  refine ⟨fun id hid => hsize id ((h.cutOut_removeAll ids).mem_nodes_iff.1 hid).1, ?_⟩
  refine List.eq_nil_iff_forall_not_mem.2 fun r hr => hsize r.id ?_
  exact (mem_nodes_iff g r.id).2 ⟨r, ((h.mem_removeAll_iff ids r).1 hr).1⟩

variable [Location L]

theorem Patch.ofFound_of_size_eq_zero (h : Linked g) (hsize : g.size = 0) {found : Found L}
    (hfound : found.resources = []) :
    (ofFound g found).graph.size = 0 ∧ (ofFound g found).events = [] := by
  unfold ofFound
  simp only [hfound, List.foldl_nil]
  split
  · obtain ⟨hafter, hremoved⟩ := h.removeAll_of_size_eq_zero hsize (stale g [])
    exact ⟨hafter, by simp [Patch.remove, hremoved]⟩
  · exact ⟨hsize, rfl⟩

theorem ServiceCall.change_of_size_eq_zero (p : Profile L σ) (h : Linked g) (hsize : g.size = 0)
    {c : ServiceCall L σ} (hc : (MonitorAct.call c).Undiscovering) :
    (c.change p g).1.size = 0 ∧ (c.change p g).2 = [] := by
  have removed := h.removeAll_of_size_eq_zero hsize
  cases c with
  | discover => exact hc.elim
  | removeCovered query => exact ⟨(removed _).1, List.map_eq_nil_iff.2 (removed _).2⟩
  | clear => exact ⟨(removed _).1, List.map_eq_nil_iff.2 (removed _).2⟩

end Nothing

/-- A queue that holds nothing and has nothing to do. -/
structure QueueShare.Drained {D : Type} (s : QueueShare L D) : Prop where
  idle : s.duties = []
  empty : s.queue.toList = []

namespace QueueShare.Drained

variable {D : Type} {s s' : QueueShare L D}

theorem tell (h : s.Drained) : (s.tell []).Drained :=
  ⟨rfl, h.empty⟩

theorem clear (h : s.Drained) : ({ s with queue := s.queue.clear }).Drained :=
  ⟨h.idle, CollectionQueue.toList_clear s.queue⟩

theorem step [MeasurementKind D] {w : View L} (h : s.Drained) (within : s.Within w)
    {act : QueueAct L D} (step : s.Step act s') : s'.Drained := by
  obtain ⟨v, knows, -⟩ := within
  cases step with
  | drop next => simp [h.idle] at next
  | read now next => simp [h.idle] at next
  | enter next => simp [h.idle] at next
  | look now => exact ⟨h.idle, h.empty⟩
  | pop => exact ⟨h.idle, knows.inStep.pop_eq_nil h.empty _⟩

end QueueShare.Drained

/-- Both queues hold nothing and have nothing to do. -/
structure SharedMonitor.Drained (s : SharedMonitor L) : Prop where
  metrics : s.metrics.Drained
  avails : s.avails.Drained

theorem SharedMonitor.Drained.follow {s : SharedMonitor L} (h : s.Drained)
    {change : ResourceGraph L × List (GraphEvent L)} (hevents : change.2 = []) :
    (s.follow change).Drained := by
  obtain ⟨g, events⟩ := change
  subst hevents
  exact ⟨h.metrics.tell, h.avails.tell⟩

/-- Where nothing is stored and the queues have done their duties, they hold nothing. -/
theorem SharedMonitor.Tidy.drained {s : SharedMonitor L} (h : s.Tidy) (hsize : s.graph.size = 0)
    (idle : s.Idle) : s.Drained := by
  have hnone : ∀ x, s.graph.get? x = none := fun x =>
    (get?_eq_none_iff s.graph x).2 ((size_eq_zero_iff _).1 hsize x)
  exact ⟨⟨idle.1, h.metrics.toList_eq_nil idle.1 hnone⟩,
    ⟨idle.2, h.avails.toList_eq_nil idle.2 hnone⟩⟩

variable [Location L] {p : Profile L σ} {period : Option UInt64}

/-- Those who have called, and found nothing, bring nothing into an empty service. -/
theorem SharedService.Going.drained {s s' : SharedService L} {act : ServiceAct L σ}
    (h : s.Orderly) (hsize : s.monitor.graph.size = 0)
    (held : ∀ {k found}, s.calls k = some (.holding found) → found.resources = [])
    (step : Going p s act s') :
    s'.monitor.graph.size = 0 ∧ (s.monitor.Drained → s'.monitor.Drained) := by
  have tidy := h.tidy
  obtain ⟨step, -⟩ := step
  cases step with
  | patch holding _ patched =>
      subst patched
      obtain ⟨hafter, hevents⟩ := Patch.ofFound_of_size_eq_zero tidy.linked hsize (held holding)
      exact ⟨hafter, fun drained => drained.follow hevents⟩
  | other step undiscovering =>
      cases step with
      | call c =>
          obtain ⟨hafter, hevents⟩ := c.change_of_size_eq_zero p tidy.linked hsize undiscovering
          exact ⟨hafter, fun drained => drained.follow hevents⟩
      | metrics step => exact ⟨hsize, fun h => ⟨h.metrics.step tidy.metrics step, h.avails⟩⟩
      | avails step => exact ⟨hsize, fun h => ⟨h.metrics, h.avails.step tidy.avails step⟩⟩
  | _ => exact ⟨hsize, id⟩

/-- Where no call is about to search or searches, none will, and none fails. -/
theorem SharedService.Going.settled {s s' : SharedService L} {k : ℕ} {phase : DiscoveryPhase L}
    (step : Going p s (.goes k phase) s')
    (settled : ∀ {before}, s.calls k = some before → before ≠ .called ∧ before ≠ .searching) :
    ¬ phase.Untouching := by
  intro untouching
  obtain ⟨step, going⟩ := step
  rcases step.goes_cases.2 with hnone | ⟨before, hbefore, unended, hkeeps⟩
  · rw [step.eq_called hnone] at going
    exact going
  · obtain ⟨hcalled, hsearching⟩ := settled hbefore
    have former := hkeeps untouching
    cases before with
    | called => exact hcalled rfl
    | searching => exact hsearching rfl
    | ended result => exact unended result rfl
    | _ => exact former

namespace SharedEndpoint

variable {s s' s₁ : SharedEndpoint L} {act : EndpointAct L σ} {n : ℕ}

section Barren

/-- What a step does to the calls. -/
theorem Unstarted.calls_cases (step : Unstarted p period s act s') {k : ℕ}
    {phase : DiscoveryPhase L} (hk : s'.service.calls k = some phase) :
    s.service.calls k = some phase ∨
      SharedService.Going p s.service (.goes k phase) s'.service ∨
      phase = .called ∧ ∃ t h, s.tasks t = some ⟨.due, h⟩ := by
  have called : ∀ {t j h}, s.tasks t = some ⟨.due, h⟩ →
      Function.update s.service.calls j (some .called) k = some phase →
      s.service.calls k = some phase ∨ phase = .called ∧ ∃ t h, s.tasks t = some ⟨.due, h⟩ := by
    intro t j h due hj
    rcases eq_some_of_update hj with ⟨-, hnew⟩ | hold
    · exact .inr ⟨(Option.some.inj hnew).symm, t, h, due⟩
    · exact .inl hold
  obtain ⟨step, unstarted⟩ := step
  cases step with
  | call due => exact (called due hk).imp_right .inr
  | callLast due => exact (called due hk).imp_right .inr
  | @service act service going =>
      cases act with
      | other act => exact .inl (going.1.calls_other ▸ hk)
      | goes j after =>
          rcases eq_some_of_update (going.1.goes_cases.1 ▸ hk) with ⟨rfl, hnew⟩ | hold
          · cases hnew
            exact .inr (.inl going)
          · exact .inl hold
  | _ => exact .inl hk

omit [Location L] in
/-- A task that goes on after a call that has ended could have done so before. -/
theorem mayScan_of_next {k : ℕ} {calls : ℕ → Option (DiscoveryPhase L)}
    {result : Except Failure (ScanReport L)} (ended : calls k = some (.ended result))
    {wait : UInt64} (again : nextScanMillis period result = some wait) :
    (TaskPhase.awaits k).MayScan period calls := by
  unfold nextScanMillis at again
  split at again
  · exact .inl (by simp [again])
  · exact .inr ⟨_, ended⟩
  · exact .inl (by simp [again])

theorem Barren.held_step (h : Barren p period s) (step : Unstarted p period s act s') {k : ℕ}
    {found : Found L} (hk : s'.service.calls k = some (.holding found)) :
    found.resources = [] := by
  rcases step.calls_cases hk with hold | ⟨going, -⟩ | ⟨hnew, -⟩
  · exact h.held hold
  · obtain ⟨searching, depth, x, finds⟩ := going.finds
    by_contra hfound
    exact (h.calls ⟨depth, x, found, finds, hfound⟩ searching).2 rfl
  · cases hnew

section Fertile

variable (h : Barren p period s) (finds : p.CanFind)
include h finds

/-- A call that goes on has touched something already. -/
theorem Barren.calls_step (step : Unstarted p period s act s') {k : ℕ} {phase : DiscoveryPhase L}
    (hk : s'.service.calls k = some phase) :
    s.service.calls k = some phase ∨ ¬ phase.Untouching := by
  rcases step.calls_cases hk with hold | going | ⟨-, t, handle, due⟩
  · exact .inl hold
  · exact .inr (going.settled (h.calls finds))
  · exact absurd trivial (h.tasks finds due)

theorem Barren.tasks_step (step : Step p period s act s') {t : ℕ} {x : OwnedTask}
    (ht : s'.tasks t = some x) : ¬ x.phase.MayScan period s.service.calls := by
  have moved : ∀ {i : ℕ} {task : Option OwnedTask},
      (∀ y, task = some y → ¬ y.phase.MayScan period s.service.calls) →
      Function.update s.tasks i task t = some x → ¬ x.phase.MayScan period s.service.calls := by
    intro i task htask hi
    rcases eq_some_of_update hi with ⟨-, hnew⟩ | hold
    · exact htask x hnew
    · exact h.tasks finds hold
  have handed : ∀ {holder receiver : Handle}, handOver holder receiver s.tasks t = some x →
      ¬ x.phase.MayScan period s.service.calls := by
    intro holder receiver hi
    obtain ⟨handle, hold⟩ := handOver_eq_some hi
    have unable := h.tasks finds hold
    exact unable
  -- The steps that lead to another discovery begin where none may begin.
  cases step with
  | spawn begun => exact absurd rfl (h.starts finds begun)
  | call due => exact absurd trivial (h.tasks finds due)
  | callLast due => exact absurd trivial (h.tasks finds due)
  | outlast _ due => exact absurd trivial (h.tasks finds due)
  | sleep awaits ended again => exact absurd (mayScan_of_next ended again) (h.tasks finds awaits)
  | wake sleeps => exact absurd trivial (h.tasks finds sleeps)
  | store => exact handed ht
  | take => exact handed ht
  | finish => exact moved (by simp) ht
  | quit => exact moved (by simp) ht
  | abort => exact moved (by simp) ht
  | _ => exact h.tasks finds ht

theorem Barren.starts_step (step : Unstarted p period s act s') {m : ℕ} {phase : StartPhase}
    (hm : s'.starts m = some phase) : phase ≠ .begun := by
  have started : ∀ {i : ℕ} {after : StartPhase}, after ≠ .begun →
      Function.update s.starts i (some after) m = some phase → phase ≠ .begun := by
    intro i after hafter hi
    rcases eq_some_of_update hi with ⟨-, hnew⟩ | hold
    · exact Option.some.inj hnew ▸ hafter
    · exact h.starts finds hold
  obtain ⟨step, unstarted⟩ := step
  cases step with
  | begin => exact unstarted.elim
  | spawn => exact started (by simp) hm
  | store => exact started (by simp) hm
  | _ => exact h.starts finds hm

end Fertile

/-- What is barren stays so until the next start begins. -/
theorem Barren.step (h : Barren p period s) (step : Unstarted p period s act s') :
    Barren p period s' where
  held := h.held_step step
  calls finds {k phase} hk := by
    rcases h.calls_step finds step hk with hold | touching
    · exact h.calls finds hold
    · constructor <;> rintro rfl <;> exact touching trivial
  tasks finds {t x} ht may := by
    refine h.tasks_step finds step.1 ht ?_
    cases hphase : x.phase with
    | awaits k =>
        rw [hphase] at may
        refine may.imp_right fun ⟨name, hk⟩ => ⟨name, ?_⟩
        exact (h.calls_step finds step hk).resolve_right fun touching => touching trivial
    | _ => rwa [hphase] at may
  starts finds {m phase} hm := h.starts_step finds step hm

end Barren

section Emptied

/-- Nothing is stored and nothing that may find something is to come, and once a stop has seen
that the queues have followed they hold nothing. -/
structure Emptied (p : Profile L σ) (period : Option UInt64) (n : ℕ) (s : SharedEndpoint L) :
    Prop where
  orderly : s.Orderly
  barren : Barren p period s
  size : s.service.monitor.graph.size = 0
  drained : s.stops n ≠ some .dropping → s.service.monitor.Drained

theorem Emptied.monitor_step (h : Emptied p period n s) (step : Step p period s act s') :
    s'.service.monitor.graph.size = 0 ∧
      (s.service.monitor.Drained → s'.service.monitor.Drained) := by
  have hsize := h.size
  cases step with
  | service step => exact step.drained h.orderly.service hsize h.barren.held
  | drop =>
      obtain ⟨hafter, hevents⟩ := ServiceCall.change_of_size_eq_zero p
        h.orderly.service.tidy.linked hsize (c := .clear) trivial
      exact ⟨hafter, fun drained => drained.follow hevents⟩
  | clearMetrics _ cleared => exact ⟨hsize, fun h => ⟨cleared ▸ h.metrics.clear, h.avails⟩⟩
  | clearAvails _ cleared => exact ⟨hsize, fun h => ⟨h.metrics, cleared ▸ h.avails.clear⟩⟩
  | _ => exact ⟨hsize, id⟩

theorem Emptied.step (h : Emptied p period n s) (step : Unstarted p period s act s') :
    Emptied p period n s' where
  orderly := h.orderly.step step.1
  barren := h.barren.step step
  size := (h.monitor_step step.1).1
  drained after := by
    by_cases dropping : s.stops n = some .dropping
    · obtain ⟨step, unstarted⟩ := step
      by_cases hn : ∃ phase, act = .stop n phase
      · obtain ⟨phase, rfl⟩ := hn
        have before := step.stops_eq.1
        rw [dropping] at before
        -- From there a stop goes on only when the queues have followed the removal.
        cases step with
        | release _ idle => exact h.orderly.service.tidy.drained h.size idle
        | _ => cases before
      · have still := step.stops_of_ne (not_exists.1 hn)
        rw [still] at after
        exact absurd dropping after
    · exact (h.monitor_step step.1).2 (h.drained dropping)

/-- A stop that has returned has done so for ever. -/
theorem returned_of_run {acts : List (EndpointAct L σ)}
    (run : Runs (Unstarted p period) s₁ acts s) (returned : .stop n .returned ∈ acts) :
    s.stops n = some .returned := by
  refine run.keeps (I := fun acts s => .stop n .returned ∈ acts → s.stops n = some .returned)
    (by simp) (fun {acts act s s'} ih step hacts => ?_) returned
  by_cases hn : ∃ phase, act = .stop n phase
  · obtain ⟨phase, rfl⟩ := hn
    obtain ⟨before, after⟩ := step.1.stops_eq
    rcases List.mem_append.1 hacts with hold | hnew
    · rw [ih hold] at before
      cases phase <;> cases before
    · cases List.mem_singleton.1 hnew
      exact after
  · rw [step.1.stops_of_ne (not_exists.1 hn)]
    refine ih ((List.mem_append.1 hacts).resolve_right fun hnew => hn ⟨.returned, ?_⟩)
    exact (List.mem_singleton.1 hnew).symm

theorem Emptied.staysEmpty (h : Emptied p period n s₁) : StaysEmpty p period n s₁ := by
  intro acts s' run returned
  have after : Emptied p period n s' := run.preserves h fun h step => h.step step
  have drained := after.drained (by simp [returned_of_run run returned])
  exact ⟨after.size, drained.metrics.empty, drained.avails.empty⟩

end Emptied

section Dropping

variable (h : s.Orderly) (drop : Step p period s (.stop n .dropping) s₁)
include h drop

omit h in
/-- When a stop removes the resources everyone else stays where they are. -/
theorem drop_eq : s₁ = (s.ending n .dropping).withMonitor (s.service.monitor.follow
    ((ServiceCall.clear (L := L) (σ := σ)).change p s.service.monitor.graph)) := by
  cases drop with
  | drop => rfl

theorem emptied_of_drop (hloop : s.service.monitor.graph.Loopless)
    (barren : Barren p period s) : Emptied p period n s₁ := by
  have orderly := h.step drop
  have dropping := drop.stops_eq.2
  rw [drop_eq drop] at orderly dropping ⊢
  exact ⟨orderly, ⟨barren.held, barren.calls, barren.tasks, barren.starts⟩,
    h.service.tidy.linked.size_clear hloop, fun hne => absurd dropping hne⟩

/-- Whatever a removal leaves, or a scan brings, is there after the stop has returned. -/
theorem loopless_and_barren_of_staysEmpty (stays : StaysEmpty p period n s₁) :
    s.service.monitor.graph.Loopless ∧ Barren p period s := by
  have orderly := h.step drop
  obtain ⟨acts, monitor, stops, run, returned, idle, hgraph⟩ :=
    run_to_return p period drop.stops_eq.2
  rw [drop_eq drop] at hgraph
  refine ⟨h.service.tidy.linked.loopless_of_size_clear ?_, ?_⟩
  · have empty := (stays acts _ run returned).1
    rw [← empty]
    exact (congrArg size hgraph).symm
  · by_contra fertile
    have returnedOrderly := run.preserves orderly fun h step => h.step step.1
    have returnedFertile : ¬ Barren p period { s₁ with
        service := { s₁.service with monitor }, stops } := by
      rw [drop_eq drop]
      exact fun barren => fertile ⟨barren.held, barren.calls, barren.tasks, barren.starts⟩
    obtain ⟨s', reaches, hsize⟩ := refills_of_not_barren returnedOrderly idle returnedFertile
    obtain ⟨acts', run'⟩ := run.extend reaches
    exact hsize (stays _ _ run' (List.mem_append_left _ returned)).1

end Dropping

section AtOnce

/-- What a stop that has no task left to wait for does at once is a run in which nobody comes
between. -/
theorem reaches_stop {r : EndpointRun L σ} (hmonitor : s.service.monitor = r.world.monitor.shared)
    (waiting : s.stops n = some .waiting)
    (waited : ∀ t x, s.tasks t = some x → x.handle ≠ .stop n) :
    ∃ stops, Reaches (Unstarted p period) s
      { s with service := { s.service with monitor := r.stop.world.monitor.shared }, stops } := by
  have idle : s.service.monitor.Idle := hmonitor ▸ ⟨rfl, rfl⟩
  have phase : ∀ {s : SharedEndpoint L} {phase : StopPhase},
      (s.ending n phase).stops n = some phase := Function.update_self ..
  have hgraph : s.service.monitor.graph = r.world.monitor.graph := by rw [hmonitor]; rfl
  have dropped : Reaches (Unstarted p period) s _ := .single ⟨.drop waiting waited idle, trivial⟩
  have followed := dropped.trans <| reaches_service <|
    SharedService.reaches_observe (m := r.world.monitor) r.now r.world.monitor.graph.clear.1
      (r.world.monitor.graph.clear.2.map .removed) (by rw [← hmonitor, ← hgraph]; rfl)
  have released := followed.tail ⟨.release phase ⟨rfl, rfl⟩, trivial⟩
  have metrics := released.tail ⟨.clearMetrics phase rfl, trivial⟩
  have avails := metrics.tail ⟨.clearAvails phase rfl, trivial⟩
  exact ⟨_, avails.tail ⟨.leave phase, trivial⟩⟩

/-- A stop may abort all tasks that it waits for. -/
theorem reaches_aborted (waiting : s.stops n = some .waiting) (few : Few s.tasks)
    (held : ∀ t x, s.tasks t = some x → x.handle = .stop n) :
    Reaches (Unstarted p period) s { s with tasks := fun _ => none } := by
  obtain ⟨bound, hbound⟩ := few
  induction bound generalizing s with
  | zero =>
      have gone : s.tasks = fun _ => none := funext fun t => hbound t t.zero_le
      rw [← gone]
      exact .refl s
  | succ bound ih =>
      have rest := fun s waiting held hbound => ih (s := s) waiting held hbound
      cases hlast : s.tasks bound with
      | none =>
          refine rest s waiting held fun t ht => ?_
          rcases Nat.eq_or_lt_of_le ht with rfl | hlt
          · exact hlast
          · exact hbound t hlt
      | some x =>
          have others : ∀ {t}, t ≠ bound → (s.moved bound none).tasks t = s.tasks t := fun ht =>
            Function.update_of_ne ht ..
          have aborted : (s.moved bound none).tasks bound = none := Function.update_self ..
          refine (Reaches.single ⟨.abort waiting hlast (held bound x hlast), trivial⟩).trans
            (rest (s.moved bound none) waiting (fun t y ht => ?_) fun t ht => ?_)
          · by_cases htb : t = bound
            · rw [htb, aborted] at ht
              cases ht
            · exact held t y (others htb ▸ ht)
          · by_cases htb : t = bound
            · rw [htb, aborted]
            · rw [others htb]
              exact hbound t (by omega)

/-- An endpoint may be stopped while its first discovery has come as far as it may come. -/
theorem exists_drop (period : Option UInt64) {service : SharedService L}
    (reaches : Reaches (SharedService.Going p) (({} : SharedService L).goes 0 .called) service)
    (idle : service.monitor.Idle) : ∃ acts s s₁, Runs (Step p period) {} acts s ∧
      Step p period s (.stop 0 .dropping) s₁ ∧ s.service = service ∧
      (∀ t, s.tasks t = none) ∧ ∀ m, s.starts m ≠ some .begun := by
  have weaken : ∀ {s s' : SharedEndpoint L}, Reaches (Unstarted p period) s s' →
      Reaches (Step p period) s s' := fun h => h.lift id fun _ act _ step => ⟨act, step.1⟩
  have begun := (Runs.start : Runs (Step p period) {} [] {}).snoc (.begin (m := 0) rfl)
  have spawned := begun.snoc
    (.spawn (m := 0) (i := 0) (j := 1) (k := 2) rfl (by decide) fun _ _ => rfl)
  have called := spawned.snoc (.call (t := 2) (k := 0) rfl rfl (by simp))
  have stored := called.snoc (.store (m := 0) rfl)
  obtain ⟨_, gone⟩ := stored.extend (weaken (reaches_service reaches))
  have signalled := gone.snoc (.signal (n := 0) rfl)
  have waiting := signalled.snoc (.take (n := 0) rfl)
  have spawnedHeld : ∀ t y, Function.update (Function.update (Function.update
      (Function.update (fun _ => none) 0 (some ⟨.collects, .start 0⟩)) 1
        (some ⟨.collects, .start 0⟩)) 2 (some ⟨.due, .start 0⟩)) 2
          (some (⟨.awaits 0, .start 0⟩ : OwnedTask)) t = some y → y.handle = .start 0 := by
    intro t y hy
    simp only [Function.update_apply] at hy
    split_ifs at hy <;> cases hy <;> rfl
  obtain ⟨_, aborted⟩ := waiting.extend <| weaken <|
    reaches_aborted (n := 0) rfl (orderly_of_run waiting).few fun t x ht =>
      handOver_handle (fun y hy => handOver_handle (spawnedHeld t) hy) ht
  refine ⟨_, _, _, aborted, .drop rfl (by simp) idle, rfl, fun _ => rfl, fun m hm => ?_⟩
  by_cases h0 : m = 0 <;> simp_all [starting, moved, ending]

/-- It may be stopped after the discovery has ended, and nothing that may find something is to
come then. -/
theorem exists_drop_ended (p : Profile L σ) (period : Option UInt64) (peer : σ) (depth : Nat)
    (now : UInt64) :
    ∃ acts s s₁, Runs (Step p period) {} acts s ∧ Step p period s (.stop 0 .dropping) s₁ ∧
      Barren p period s ∧ s.service.monitor.graph =
        (Monitor.discover p depth now (fun _ s => s) (Monitor.start peer, ())).2.1.graph := by
  obtain ⟨told, reaches⟩ := SharedService.reaches_discover (p := p)
    (s := ({} : SharedService L).goes 0 .called) (m := Monitor.start peer) rfl rfl rfl
    (SharedService.calls_goes _ 0 _) depth now ()
  obtain ⟨acts, s, s₁, run, drop, hservice, htasks, hstarts⟩ :=
    exists_drop period reaches ⟨rfl, rfl⟩
  have hcalls : ∀ {k phase}, s.service.calls k = some phase → ∃ result, phase = .ended result := by
    intro k phase hk
    rw [hservice] at hk
    by_cases h0 : k = 0
    · subst h0
      cases hk
      exact ⟨_, rfl⟩
    · simp [SharedService.afterDiscovery, SharedService.goes, h0] at hk
  refine ⟨acts, s, s₁, run, drop, ⟨fun hk => ?_, fun _ _ _ hk => ?_, fun _ t x ht => ?_,
    fun _ m phase hm hbegun => ?_⟩, by rw [hservice]; rfl⟩
  · cases (hcalls hk).choose_spec
  · obtain ⟨result, rfl⟩ := hcalls hk
    simp
  · simp [htasks] at ht
  · exact hstarts m (hbegun ▸ hm)

end AtOnce

/-- However the tasks, the scans and the collections go on, once a stop has returned an endpoint
stays empty until the next start begins, exactly if, when the stop removes the resources, no
resource hangs below itself and nothing that may find something is under way or to come. -/
theorem stop_staysEmpty_iff {acts : List (EndpointAct L σ)} (run : Runs (Step p period) {} acts s)
    (drop : Step p period s (.stop n .dropping) s₁) :
    StaysEmpty p period n s₁ ↔ s.service.monitor.graph.Loopless ∧ Barren p period s := by
  have orderly := orderly_of_run run
  refine ⟨loopless_and_barren_of_staysEmpty orderly drop, fun ⟨hloop, barren⟩ => ?_⟩
  exact (emptied_of_drop orderly drop hloop barren).staysEmpty

section Examples

open Monitor SharedMonitor

/-- An endpoint that is stopped after its discovery has ended stays empty. -/
theorem stop_staysEmpty_iff_ended :
    let p := heldInMemory [measuredAtX]
    ∃ acts s s₁, Runs (Step p none) {} acts s ∧ Step p none s (.stop 0 .dropping) s₁ ∧
      s.service.monitor.graph.size = 1 ∧ StaysEmpty p none 0 s₁ := by
  intro p
  obtain ⟨acts, s, s₁, run, drop, barren, hgraph⟩ :=
    exists_drop_ended p none loadedNode 1 0
  have hclear : s.service.monitor.graph.clear.1.size = 0 := by
    rw [hgraph]
    decide +kernel
  have hloop := (orderly_of_run run).service.tidy.linked.loopless_of_size_clear hclear
  exact ⟨acts, s, s₁, run, drop, by rw [hgraph]; decide +kernel,
    (stop_staysEmpty_iff run drop).2 ⟨hloop, barren⟩⟩

/-- There are two ways for something to be stored after a stop: a scan that had found something
when the resources were removed, and resources in a loop. -/
theorem not_staysEmpty_scanning_or_looped :
    (∃ acts s s₁, Runs (Step (heldInMemory [measuredAtX]) none) {} acts s ∧
      Step (heldInMemory [measuredAtX]) none s (.stop 0 .dropping) s₁ ∧
      s.service.monitor.graph.size = 0 ∧
      ¬ StaysEmpty (heldInMemory [measuredAtX]) none 0 s₁) ∧
    ∃ acts s s₁, Runs (Step (beansInMemory overlappingTypes) none) {} acts s ∧
      Step (beansInMemory overlappingTypes) none s (.stop 0 .dropping) s₁ ∧
      Barren (beansInMemory overlappingTypes) none s ∧
      ¬ StaysEmpty (beansInMemory overlappingTypes) none 0 s₁ := by
  constructor
  · let called : SharedService ManagementAddress := ({} : SharedService _).goes 0 .called
    have entered := SharedService.reaches_step (p := heldInMemory [measuredAtX]) (.refl called)
      (.enter (SharedService.calls_goes _ 0 _) rfl) trivial
    have held := SharedService.reaches_step entered
      (.find (k := 0) (SharedService.calls_goes called 0 .searching) finds_loadedResource) trivial
    obtain ⟨acts, s, s₁, run, drop, hservice, -⟩ :=
      exists_drop none held ⟨rfl, rfl⟩
    refine ⟨acts, s, s₁, run, drop, by rw [hservice]; rfl, fun stays => ?_⟩
    have barren := (loopless_and_barren_of_staysEmpty (orderly_of_run run) drop stays).2
    have hheld : s.service.calls 0 = some (.holding ⟨[loadedResource], 0⟩) := by
      rw [hservice]
      rfl
    cases barren.held hheld
  · obtain ⟨acts, s, s₁, run, drop, barren, hgraph⟩ :=
      exists_drop_ended (beansInMemory overlappingTypes) none twoBeans 3 0
    refine ⟨acts, s, s₁, run, drop, barren, fun stays => ?_⟩
    have orderly := orderly_of_run run
    have hloop := (loopless_and_barren_of_staysEmpty orderly drop stays).1
    have hclear := orderly.service.tidy.linked.size_clear hloop
    have left : s.service.monitor.graph.clear.1.size = 2 := by
      rw [hgraph]
      decide +kernel
    cases left.symm.trans hclear

end Examples

end SharedEndpoint

end EndpointMonitor
