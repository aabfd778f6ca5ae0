import EndpointMonitor.Proofs.Delivery.Accounts

/-!
# What a successful shutdown is worth

Once the worker is finished, no point is taken and none handed over. So what a shutdown call
promises by returning true is decided when it returns: the worker has to be finished, and no point
may have come into the channel behind its last look. Neither follows from the answer. A later
call returns true at once, whatever the worker does, and the channel takes points until the
worker is gone.
-/

namespace EndpointMonitor

namespace Traffic

open TrafficAct

variable {P : Type} [DataPoint P] {config : DispatcherConfig} {s s' : Traffic P}
  {act : TrafficAct P} {acts acts' : List (TrafficAct P)} {first : Bool}

/-- Every accepted point is in exactly one of the payloads: each key has in them the points that
were accepted under it, each as often as it was accepted. -/
def HandedAll (acts : List (TrafficAct P)) (s : Traffic P) : Prop :=
  ∀ key, (s.core.delivered.reverse.flatMap (·.points key)).Perm
    ((accepted acts).filter fun p => DataPoint.key p = key)

section Finished

/-- When the worker is finished, no step starts it again, and no step takes a point or hands one
over. -/
theorem step_of_stopped (hstopped : s.core.phase = .stopped) (step : Step s act s') :
    s'.core.phase = .stopped ∧ act.accepted? = none ∧
      s'.core.delivered = s.core.delivered := by
  cases step with
  | offer point =>
      rcases s.core.dispatch_cases point with ⟨hphase, -, -⟩ | ⟨log, heq⟩
      · exact absurd hstopped hphase
      · rw [heq]
        exact ⟨hstopped, rfl, rfl⟩
  | receive ready next phase => simp [hstopped] at phase
  | add held adds =>
      have phase := adds.imp And.left And.left
      simp [hstopped] at phase
  | flush empty =>
      rcases s.core.flushDue_cases with heq | ⟨phase, -, -⟩
      · rw [heq]
        exact ⟨hstopped, rfl, rfl⟩
      · simp [hstopped] at phase
  | ask ready next phase => simp [hstopped] at phase
  | drain ready phase next => simp [hstopped] at phase
  | exit ready phase => simp [hstopped] at phase
  | answer answer storing =>
      rcases Dispatcher.storeReturned_cases storing answer with ⟨-, heq⟩ | ⟨-, log, heq⟩
      · rw [heq]
        exact ⟨hstopped, rfl, rfl⟩
      · rw [heq]
        exact ⟨hstopped, rfl, rfl⟩
  | shutdown step =>
      have asks := step.asks
      exact ⟨asks.phase.trans hstopped, step.quiet.2.2.1, asks.delivered⟩

theorem run_of_stopped (hstopped : s.core.phase = .stopped) (run : Runs Step s acts s') :
    s'.core.phase = .stopped ∧ accepted acts = [] ∧
      s'.core.delivered = s.core.delivered := by
  induction run with
  | start => exact ⟨hstopped, rfl, rfl⟩
  | snoc _ step ih =>
      obtain ⟨hstopped', hnone, hsame⟩ := ih
      obtain ⟨hstopped'', hquiet, hkept⟩ := step_of_stopped hstopped' step
      refine ⟨hstopped'', ?_, hkept.trans hsame⟩
      rw [accepted_concat, hnone, hquiet, Option.toList_none, List.append_nil]

/-- What was handed over to the end stays all there is to hand over. -/
theorem HandedAll.run (h : HandedAll acts s) (hstopped : s.core.phase = .stopped)
    (run : Runs Step s acts' s') : HandedAll (acts ++ acts') s' := by
  obtain ⟨-, hnone, hsame⟩ := run_of_stopped hstopped run
  intro key
  have happend : accepted (acts ++ acts') = accepted acts ++ accepted acts' :=
    List.filterMap_append
  rw [happend, hnone, List.append_nil, hsame]
  exact h key

end Finished

section Complete

/-- A finished worker has handed over all that was accepted, but for what came late. -/
theorem Sound.accepted_of_stopped (h : Sound config acts s) (hstopped : s.core.phase = .stopped) :
    ∃ chunks, s.core.Holds chunks [] ∧ accepted acts = chunks.flatten ++ late acts := by
  have hlooked : acts.any isLastLook = true := by
    by_contra hlook
    have phase := h.progress.looking (by simpa using hlook)
    simp [hstopped] at phase
  obtain ⟨-, hhand, hcount⟩ := h.progress.ended hlooked
  obtain ⟨_, ⟨chunks, batched, holds, -, rfl⟩, heq⟩ := h.progress.flow
  have hbatched : batched = [] := List.length_eq_zero_iff.1 (holds.count_eq ▸ hcount)
  have hqueued : s.core.queued = [] := by
    rw [Dispatcher.queued, h.orderly.stopped hstopped, List.filterMap_nil]
  subst hbatched
  refine ⟨chunks, holds, ?_⟩
  rw [heq, hhand, hqueued, lost, if_pos hstopped]
  simp

/-- Some points under their keys are a part of more points, and all of them only if no point is
added. -/
theorem forall_perm_filter_append_iff (points more : List P) :
    (∀ key, (points.filter fun p => DataPoint.key p = key).Perm
      ((points ++ more).filter fun p => DataPoint.key p = key)) ↔ more = [] := by
  constructor
  · intro h
    by_contra hmore
    obtain ⟨p, hp⟩ := List.exists_mem_of_ne_nil more hmore
    have hlength := (h (DataPoint.key p)).length_eq
    rw [List.filter_append, List.length_append] at hlength
    have hmem : p ∈ more.filter fun q => DataPoint.key q = DataPoint.key p := by
      simpa using hp
    have hpos := List.length_pos_of_mem hmem
    omega
  · rintro rfl key
    rw [List.append_nil]

theorem Sound.handedAll_iff (h : Sound config acts s) (hstopped : s.core.phase = .stopped) :
    HandedAll acts s ↔ late acts = [] := by
  obtain ⟨chunks, holds, haccepted⟩ := h.accepted_of_stopped hstopped
  rw [← forall_perm_filter_append_iff chunks.flatten, ← haccepted]
  refine forall_congr' fun key => ?_
  rw [holds.delivered, Payload.flatMap_points_ofPoints]

end Complete

/-- The call that has taken the worker over returns true only when the worker is finished. -/
theorem CallStep.stopped_of_done {d d' : Dispatcher P} {c c' : CallPhase}
    (h : CallStep d c (.returned true true) d' c') : d.phase = .stopped := by
  cases h with
  | finish finished => exact eq_of_beq finished

theorem phase_of_returned (step : Step s (.returned first true) s') :
    (first = true → s.core.phase = .stopped) ∧ s'.core.phase = s.core.phase := by
  cases step with
  | shutdown step =>
      refine ⟨fun hfirst => ?_, step.asks.phase⟩
      subst hfirst
      exact step.stopped_of_done

/-- A shutdown call that returns true keeps its promise, that the worker is finished and that
every point accepted before or since is in exactly one payload, if and only if it is the call
that has taken the worker over or the worker is finished anyhow, and no point was accepted after
the last look of the worker into the channel. -/
theorem shutdown_handedAll_iff (hbatch : 1 ≤ config.batchSize.toNat)
    (run : Runs Step (start config) acts s) (returned : Step s (.returned first true) s') :
    (s'.core.phase = .stopped ∧ ∀ acts' s'', Runs Step s' acts' s'' →
      HandedAll (acts ++ .returned first true :: acts') s'') ↔
    (first = true ∨ s.core.phase = .stopped) ∧ late acts = [] := by
  obtain ⟨hfirst, hphase⟩ := phase_of_returned returned
  have sound : Sound config (acts ++ [.returned first true]) s' :=
    (sound_of_run hbatch run).step returned
  have hlate : late (acts ++ [.returned first true]) = late acts := late_concat_of_quiet rfl
  constructor
  · rintro ⟨hstopped, hall⟩
    -- The run without a step shows already what came late.
    refine ⟨Or.inr (hphase ▸ hstopped), ?_⟩
    rw [← hlate]
    exact (sound.handedAll_iff hstopped).1 (hall [] s' .start)
  · rintro ⟨hdone, hnone⟩
    have hstopped : s'.core.phase = .stopped := hphase.trans (hdone.elim hfirst id)
    have handed : HandedAll (acts ++ [.returned first true]) s' :=
      (sound.handedAll_iff hstopped).2 (hlate.trans hnone)
    refine ⟨hstopped, fun acts' s'' run' => ?_⟩
    rw [List.append_cons]
    exact handed.run hstopped run'

/-- A point is stored, and then the only shutdown call succeeds. -/
theorem shutdown_handedAll_iff_stored :
    let config : DispatcherConfig := ⟨1, 1, 50, 0⟩
    let up : AvailPoint := ⟨"a", 1, .up⟩
    let acts : List (TrafficAct AvailPoint) :=
      [.offered up true, .received, .added, .answered (Payload.ofPoints [up]) (.ok ()), .called,
        .requested, .asked, .drained, .exited]
    1 ≤ config.batchSize.toNat ∧ ∃ s s', Runs Step (start config) acts s ∧
      Step s (.returned true true) s' ∧ s'.core.phase = .stopped ∧
      ∀ acts' s'', Runs Step s' acts' s'' →
        HandedAll (acts ++ .returned true true :: acts') s'' := by
  intro config up acts
  let idle : Dispatcher AvailPoint := .start config
  let stored : Dispatcher AvailPoint := (idle.receivePoint up).storeReturned (.ok ())
  let called : Dispatcher AvailPoint := { stored with takenOver := true }
  let requested : Dispatcher AvailPoint := { called with channel := [.shutdown] }
  let asked : Dispatcher AvailPoint := { called with phase := .draining }
  let closing : Dispatcher AvailPoint := { called with phase := .closing }
  let stopped : Dispatcher AvailPoint := { called with phase := .stopped }
  have offer : Step (start config) (.offered up true)
      { core := { idle with channel := [.store up] } } := .offer up
  have receive : Step { core := { idle with channel := [.store up] } } .received
      { core := idle, hand := some up } := .receive ⟨rfl, rfl⟩ rfl (.inl rfl)
  have add : Step { core := idle, hand := some up } .added { core := idle.receivePoint up } :=
    .add rfl (.inl ⟨rfl, rfl⟩)
  have answer : Step { core := idle.receivePoint up }
      (.answered (Payload.ofPoints [up]) (.ok ())) { core := stored } := .answer (.ok ()) rfl
  have call : Step { core := stored } .called { core := called, caller := .requesting } :=
    .shutdown (.call rfl)
  have request : Step { core := called, caller := .requesting } .requested
      { core := requested, caller := .waiting } := .shutdown (.request rfl)
  have ask : Step { core := requested, caller := .waiting } .asked
      { core := asked, caller := .waiting } := .ask ⟨rfl, rfl⟩ rfl rfl
  have drain : Step { core := asked, caller := .waiting } .drained
      { core := closing, caller := .waiting } := .drain ⟨rfl, rfl⟩ rfl (.inl ⟨rfl, rfl⟩)
  have exit : Step { core := closing, caller := .waiting } .exited
      { core := stopped, caller := .waiting } := .exit ⟨rfl, rfl⟩ rfl
  have returned : Step { core := stopped, caller := .waiting } (.returned true true)
      { core := stopped, caller := .returned } := .shutdown (.finish rfl)
  have run : Runs Step (start config) acts { core := stopped, caller := .waiting } :=
    ((((((((Runs.start.snoc offer).snoc receive).snoc add).snoc answer).snoc call).snoc
      request).snoc ask).snoc drain).snoc exit
  have kept := (shutdown_handedAll_iff (by decide) run returned).2 ⟨.inl rfl, rfl⟩
  exact ⟨by decide, _, _, run, returned, kept⟩

/-- The promise is broken in two ways. A second call returns true after the first has given up,
while the point is still in the channel; and a point accepted after the last look of the worker
is lost although the only call returns true. -/
theorem not_shutdown_handedAll :
    let config : DispatcherConfig := ⟨1, 1, 50, 0⟩
    let up : AvailPoint := ⟨"a", 1, .up⟩
    let early : List (TrafficAct AvailPoint) :=
      [.offered up true, .called, .returned true false]
    let late : List (TrafficAct AvailPoint) :=
      [.called, .requested, .asked, .drained, .offered up true, .exited]
    (∃ s s', Runs Step (start config) early s ∧ Step s (.returned false true) s' ∧
      s'.core.phase ≠ .stopped ∧ ¬ HandedAll (early ++ [.returned false true]) s') ∧
    ∃ s s', Runs Step (start config) late s ∧ Step s (.returned true true) s' ∧
      ¬ HandedAll (late ++ [.returned true true]) s' := by
  intro config up early late
  have lost : ∀ {acts : List (TrafficAct AvailPoint)} {s : Traffic AvailPoint},
      accepted acts = [up] → s.core.delivered = [] → ¬ HandedAll acts s := by
    intro acts s haccepted hdelivered handed
    have hlength := (handed "a").length_eq
    rw [haccepted, hdelivered] at hlength
    exact absurd hlength (by decide)
  let called : Dispatcher AvailPoint := { Dispatcher.start config with takenOver := true }
  refine ⟨?_, ?_⟩
  · let buffered : Dispatcher AvailPoint :=
      { Dispatcher.start config with channel := [.store up] }
    let full : Dispatcher AvailPoint := { buffered with takenOver := true }
    have offer : Step (start config) (.offered up true) { core := buffered } := .offer up
    have call : Step { core := buffered } .called { core := full, caller := .requesting } :=
      .shutdown (.call rfl)
    have giveUp : Step { core := full, caller := .requesting } (.returned true false)
        { core := full.noteUndrained, caller := .returned } := .shutdown (.giveUp rfl)
    have again : Step { core := full.noteUndrained, caller := .returned } (.returned false true)
        { core := full.noteUndrained, caller := .returned } := .shutdown (.callAgain rfl)
    have run : Runs Step (start config) early { core := full.noteUndrained, caller := .returned } :=
      ((Runs.start.snoc offer).snoc call).snoc giveUp
    exact ⟨_, _, run, again, (by decide), lost rfl rfl⟩
  · have call : Step (start config) .called { core := called, caller := .requesting } :=
      .shutdown (.call rfl)
    have request : Step { core := called, caller := .requesting } .requested
        { core := { called with channel := [.shutdown] }, caller := .waiting } :=
      .shutdown (.request rfl)
    have ask : Step { core := { called with channel := [.shutdown] }, caller := .waiting } .asked
        { core := { called with phase := .draining }, caller := .waiting } :=
      .ask ⟨rfl, rfl⟩ rfl rfl
    have drain : Step { core := { called with phase := .draining }, caller := .waiting } .drained
        { core := { called with phase := .closing }, caller := .waiting } :=
      .drain ⟨rfl, rfl⟩ rfl (.inl ⟨rfl, rfl⟩)
    have offer : Step { core := { called with phase := .closing }, caller := .waiting }
        (.offered up true)
        { core := { called with phase := .closing, channel := [.store up] }
          caller := .waiting } := .offer up
    have exit : Step
        { core := { called with phase := .closing, channel := [.store up] }, caller := .waiting }
        .exited { core := { called with phase := .stopped }, caller := .waiting } :=
      .exit ⟨rfl, rfl⟩ rfl
    have returned : Step { core := { called with phase := .stopped }, caller := .waiting }
        (.returned true true)
        { core := { called with phase := .stopped }, caller := .returned } :=
      .shutdown (.finish rfl)
    have run : Runs Step (start config) late
        { core := { called with phase := .stopped }, caller := .waiting } :=
      (((((Runs.start.snoc call).snoc request).snoc ask).snoc drain).snoc offer).snoc exit
    exact ⟨_, _, run, returned, lost rfl rfl⟩

end Traffic

end EndpointMonitor
