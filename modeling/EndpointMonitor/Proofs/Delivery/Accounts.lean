import EndpointMonitor.Proofs.Delivery.History

/-!
# Accounts of the points

Whatever the order of the steps, the accepted points are those that have passed into the batches,
followed by the one in the hand of the worker, those in the channel and those that were lost with
it, and the counters tell what producers and storage were told and have answered.
-/

namespace EndpointMonitor

variable {P : Type}

namespace Traffic

open TrafficAct

variable {s s' : Traffic P} {act : TrafficAct P} {acts : List (TrafficAct P)}

section Ledger

/-- The counters tell how many points were dropped and stored and how many payloads failed. -/
structure Ledger (acts : List (TrafficAct P)) (s : Traffic P) : Prop where
  answered : s.core.Answered ((answers acts).map (·.1))
  dropped : s.core.stats.dropped = UInt64.ofNat (refused acts)
  stored : s.core.stats.stored = UInt64.ofNat (storedTotal acts)
  failures : s.core.stats.storageFailures = UInt64.ofNat (failedTotal acts)

theorem ledger_start (config : DispatcherConfig) : Ledger [] (start config : Traffic P) :=
  ⟨rfl, rfl, rfl, rfl⟩

/-- An act that neither refuses a point nor answers a call leaves the counters as they are. -/
theorem Ledger.of_quiet (h : Ledger acts s) (hrefused : act.isRefusal = false)
    (hanswer : act.answer? = none) (hstats : s'.core.stats = s.core.stats)
    (hanswered : s.core.Answered ((answers acts).map (·.1)) →
      s'.core.Answered ((answers acts).map (·.1))) : Ledger (acts ++ [act]) s' := by
  have answers_eq : answers (acts ++ [act]) = answers acts := by
    rw [answers_concat, hanswer, Option.toList_none, List.append_nil]
  have refused_eq : refused (acts ++ [act]) = refused acts := by
    rw [refused, List.countP_append, refused, List.countP_singleton, hrefused]
    simp
  refine ⟨?_, ?_, ?_, ?_⟩
  · rw [answers_eq]
    exact hanswered h.answered
  · rw [hstats, refused_eq]
    exact h.dropped
  · rw [hstats, storedTotal, answers_eq]
    exact h.stored
  · rw [hstats, failedTotal, answers_eq]
    exact h.failures

variable [DataPoint P]

/-- An answer counts the points of the payload as stored, or the payload as failed. -/
theorem Ledger.answer (h : Ledger acts s) {payload : Payload P}
    (answer : Except StorageError Unit) (storing : s.core.storing = some payload) :
    Ledger (acts ++ [.answered payload answer])
      { s with core := s.core.storeReturned answer } := by
  have answers_eq : answers (acts ++ [.answered payload answer]) =
      answers acts ++ [(payload, answer)] := answers_concat acts _
  have refused_eq : refused (acts ++ [.answered payload answer]) = refused acts := by
    simp [refused, isRefusal]
  have hanswered : (answers acts).map (·.1) ++ [payload] = s.core.delivered.reverse := by
    have := h.answered
    rwa [Dispatcher.Answered, storing] at this
  rcases Dispatcher.storeReturned_cases storing answer with ⟨hok, heq⟩ | ⟨hfailed, log, heq⟩
  · rw [heq]
    refine ⟨?_, ?_, ?_, ?_⟩
    · simpa [Dispatcher.Answered, answers_eq] using hanswered
    · rw [refused_eq]
      exact h.dropped
    · simp [storedTotal, answers_eq, hok, UInt64.ofNat_add, h.stored]
    · simp [failedTotal, answers_eq, hok, h.failures]
  · rw [heq]
    refine ⟨?_, ?_, ?_, ?_⟩
    · simpa [Dispatcher.Answered, answers_eq] using hanswered
    · rw [refused_eq]
      exact h.dropped
    · simp [storedTotal, answers_eq, hfailed, h.stored]
    · simp [failedTotal, answers_eq, hfailed, UInt64.ofNat_add, h.failures]

theorem Ledger.step (h : Ledger acts s) (orderly : s.Orderly) (step : Step s act s') :
    Ledger (acts ++ [act]) s' := by
  cases step with
  | offer point =>
      rcases s.core.dispatch_cases point with ⟨-, -, heq⟩ | ⟨log, heq⟩
      · rw [heq]
        exact h.of_quiet rfl rfl rfl id
      · rw [heq]
        refine ⟨?_, ?_, ?_, ?_⟩
        · have hanswered := h.answered
          simpa [Dispatcher.Answered, answers_concat, answer?] using hanswered
        · simp [refused, isRefusal, UInt64.ofNat_add, h.dropped]
        · simp [storedTotal, answers_concat, answer?, h.stored]
        · simp [failedTotal, answers_concat, answer?, h.failures]
  | receive ready next phase => exact h.of_quiet rfl rfl rfl id
  | add held adds =>
      have idle := (orderly.held (by rw [held]; simp)).1
      exact h.of_quiet rfl rfl adds.stats_eq fun hanswered => adds.answered hanswered idle
  | flush empty =>
      rcases s.core.flushDue_cases with heq | ⟨-, idle, heq⟩
      · rw [heq]
        exact h.of_quiet rfl rfl rfl id
      · rw [heq]
        exact h.of_quiet rfl rfl s.core.stats_flush fun hanswered => hanswered.flush idle
  | ask ready next phase => exact h.of_quiet rfl rfl rfl id
  | @drain rest ready phase next =>
      refine h.of_quiet rfl rfl (Dispatcher.stats_flush _) fun hanswered => ?_
      exact Dispatcher.Answered.flush
        (d := { s.core with channel := rest, phase := .closing }) hanswered ready.2
  | exit ready phase => exact h.of_quiet rfl rfl rfl id
  | answer answer storing => exact h.answer answer storing
  | @shutdown _ d c step =>
      have asks := step.asks
      have answered : s.core.Answered ((answers acts).map (·.1)) →
          d.Answered ((answers acts).map (·.1)) := by
        rw [Dispatcher.Answered, Dispatcher.Answered, asks.storing, asks.delivered]
        exact id
      have quiet := step.quiet
      exact h.of_quiet quiet.1 quiet.2.1 asks.stats answered

end Ledger

section Progress

variable [DataPoint P]

/-- The points that were lost with the channel. -/
def lost (acts : List (TrafficAct P)) (s : Traffic P) : List P :=
  if s.core.phase = .stopped then late acts else []

/-- The accepted points in order: those that have passed into the batches, the one in the hand of
the worker, those in the channel, and those that were lost with it. -/
structure Progress (acts : List (TrafficAct P)) (s : Traffic P) : Prop where
  flow : ∃ passed, s.core.Passed passed ∧
    accepted acts = passed ++ s.hand.toList ++ s.core.queued ++ lost acts s
  looking : acts.any isLastLook = false →
    s.core.phase = .receiving ∨ s.core.phase = .draining
  /-- After its last look the worker has nothing to hand over. -/
  ended : acts.any isLastLook = true →
    (s.core.phase = .closing ∨ s.core.phase = .stopped) ∧ s.hand = none ∧ s.core.batch.count = 0
  late_eq : s.core.phase = .closing → late acts = s.core.queued
  lost_le : s.core.phase = .stopped → (late acts).length ≤ s.core.capacity

theorem progress_start {config : DispatcherConfig} (hbatch : 1 ≤ config.batchSize.toNat) :
    Progress [] (start config : Traffic P) where
  flow := ⟨[], ⟨[], [], ⟨rfl, rfl, by simp⟩, hbatch, rfl⟩, rfl⟩
  looking _ := Or.inl rfl
  ended h := by cases h
  late_eq h := by cases h
  lost_le h := by cases h

theorem Progress.not_ended (h : Progress acts s)
    (hphase : s.core.phase = .receiving ∨ s.core.phase = .draining) :
    acts.any isLastLook = false := by
  by_contra hend
  rcases (h.ended (by simpa using hend)).1 with heq | heq
  · rw [heq] at hphase
    simp at hphase
  · rw [heq] at hphase
    simp at hphase

theorem Progress.last_of_closing (h : Progress acts s) (hphase : s.core.phase = .closing) :
    acts.any isLastLook = true := by
  by_contra hlook
  have hopen := h.looking (by simpa using hlook)
  rw [hphase] at hopen
  simp at hopen

/-- An act that neither takes a point nor is the last look, and leaves all points in place. -/
theorem Progress.of_quiet (h : Progress acts s) (haccepted : act.accepted? = none)
    (hlook : act.isLastLook = false) (hconfig : s'.core.config = s.core.config)
    (hphase : s'.core.phase = s.core.phase) (hhand : s'.hand = s.hand)
    (hqueued : s'.core.queued = s.core.queued)
    (hpassed : ∀ passed, s.core.Passed passed → s'.core.Passed passed)
    (hcount : s.core.batch.count = 0 → s'.core.batch.count = 0) :
    Progress (acts ++ [act]) s' where
  flow := by
    obtain ⟨passed, hd, heq⟩ := h.flow
    refine ⟨passed, hpassed passed hd, ?_⟩
    rw [accepted_concat, haccepted, Option.toList_none, List.append_nil, heq, hhand, hqueued, lost,
      lost, hphase, late_concat_of_quiet haccepted]
  looking hany := by
    rw [any_isLastLook_concat hlook] at hany
    rw [hphase]
    exact h.looking hany
  ended hany := by
    rw [any_isLastLook_concat hlook] at hany
    obtain ⟨hend, hnone, hzero⟩ := h.ended hany
    exact ⟨hphase ▸ hend, hhand.trans hnone, hcount hzero⟩
  late_eq hclosing := by
    rw [late_concat_of_quiet haccepted, hqueued]
    exact h.late_eq (hphase ▸ hclosing)
  lost_le hstopped := by
    rw [late_concat_of_quiet haccepted, Dispatcher.capacity, hconfig]
    exact h.lost_le (hphase ▸ hstopped)

/-- While the worker goes on to look into the channel, only the flow matters. -/
theorem Progress.of_open (h : Progress acts s) (haccepted : act.accepted? = none)
    (hlook : act.isLastLook = false)
    (hphase : s.core.phase = .receiving ∨ s.core.phase = .draining)
    (hphase' : s'.core.phase = .receiving ∨ s'.core.phase = .draining)
    (hflow : ∀ passed, s.core.Passed passed → ∃ passed', s'.core.Passed passed' ∧
      passed ++ s.hand.toList ++ s.core.queued =
        passed' ++ s'.hand.toList ++ s'.core.queued) :
    Progress (acts ++ [act]) s' where
  flow := by
    have hlost : ∀ {acts : List (TrafficAct P)} {s : Traffic P},
        s.core.phase = .receiving ∨ s.core.phase = .draining → lost acts s = [] := by
      rintro acts s (heq | heq)
      · simp [lost, heq]
      · simp [lost, heq]
    obtain ⟨passed, hd, heq⟩ := h.flow
    obtain ⟨passed', hd', hmoved⟩ := hflow passed hd
    refine ⟨passed', hd', ?_⟩
    rw [accepted_concat, haccepted, heq, hlost hphase, hlost hphase', List.append_nil,
      Option.toList_none, List.append_nil, List.append_nil]
    exact hmoved
  looking _ := hphase'
  ended hany := by
    rw [any_isLastLook_concat hlook, h.not_ended hphase] at hany
    cases hany
  late_eq hclosing := by
    rw [hclosing] at hphase'
    simp at hphase'
  lost_le hstopped := by
    rw [hstopped] at hphase'
    simp at hphase'

/-- A point that is taken comes last, and comes late if the worker has had its last look. -/
theorem Progress.offer (h : Progress acts s) (point : P) (hphase : s.core.phase ≠ .stopped) :
    Progress (acts ++ [.offered point true])
      { s with core := { s.core with channel := s.core.channel ++ [.store point] } } where
  flow := by
    obtain ⟨passed, hd, heq⟩ := h.flow
    refine ⟨passed, hd.congr rfl rfl rfl, ?_⟩
    rw [accepted_concat, heq, lost, if_neg hphase, lost, if_neg hphase]
    simp [Dispatcher.queued, Command.point?, accepted?]
  looking hany := h.looking (by rwa [any_isLastLook_concat rfl] at hany)
  ended hany := h.ended (by rwa [any_isLastLook_concat rfl] at hany)
  late_eq hclosing := by
    rw [late_concat, if_pos (h.last_of_closing hclosing), h.late_eq hclosing]
    simp [Dispatcher.queued, Command.point?, accepted?]
  lost_le hstopped := absurd hstopped hphase

/-- At its last look the worker finds no points, and hands its batch over. -/
theorem Progress.drain (h : Progress acts s) (ready : s.Ready)
    (phase : s.core.phase = .draining) (hempty : s.core.queued = [])
    {rest : List (Command P)} (hrest : rest.filterMap Command.point? = []) :
    Progress (acts ++ [.drained])
      { s with core := { s.core with channel := rest, phase := .closing }.flush } where
  flow := by
    obtain ⟨passed, hd, heq⟩ := h.flow
    have hd : Dispatcher.Passed { s.core with channel := rest, phase := .closing } passed :=
      hd.congr rfl rfl rfl
    refine ⟨passed, hd.passed_flush, ?_⟩
    have same := Dispatcher.sameControl_flush { s.core with channel := rest, phase := .closing }
    rw [accepted_concat, heq, hempty, Dispatcher.queued, same.channel, hrest, lost, phase, lost,
      same.phase]
    simp [accepted?]
  looking hany := by simp [isLastLook] at hany
  ended _ := ⟨Or.inl (Dispatcher.sameControl_flush _).phase, ready.1, Dispatcher.count_flush _⟩
  late_eq _ := by
    have same := Dispatcher.sameControl_flush { s.core with channel := rest, phase := .closing }
    rw [late_concat, h.not_ended (Or.inr phase), Dispatcher.queued, same.channel, hrest]
    rfl
  lost_le hstopped := by
    rw [(Dispatcher.sameControl_flush _).phase] at hstopped
    cases hstopped

/-- What is in the channel when the worker ends is lost. -/
theorem Progress.exit (h : Progress acts s) (orderly : s.Orderly)
    (phase : s.core.phase = .closing) :
    Progress (acts ++ [.exited])
      { s with core := { s.core with channel := [], phase := .stopped } } where
  flow := by
    obtain ⟨passed, hd, heq⟩ := h.flow
    refine ⟨passed, hd.congr rfl rfl rfl, ?_⟩
    rw [accepted_concat, heq, lost, phase, lost, late_concat_of_quiet rfl, h.late_eq phase]
    simp [Dispatcher.queued, accepted?]
  looking hany := by
    rw [any_isLastLook_concat rfl, h.last_of_closing phase] at hany
    cases hany
  ended hany := by
    rw [any_isLastLook_concat rfl] at hany
    exact ⟨Or.inr rfl, (h.ended hany).2⟩
  late_eq hclosing := by cases hclosing
  lost_le _ := by
    rw [late_concat_of_quiet rfl, h.late_eq phase]
    exact Nat.le_trans (List.length_filterMap_le _ _) orderly.channel_le

theorem Progress.step (h : Progress acts s) (orderly : s.Orderly)
    (sparing : Sparing s.core s.caller) (step : Step s act s') :
    Progress (acts ++ [act]) s' := by
  cases step with
  | offer point =>
      rcases s.core.dispatch_cases point with ⟨hphase, -, heq⟩ | ⟨log, heq⟩
      · rw [heq]
        exact h.offer point hphase
      · rw [heq]
        exact h.of_quiet rfl rfl rfl rfl rfl rfl (fun _ hd => hd.congr rfl rfl rfl) id
  | receive ready next phase =>
      refine h.of_open rfl rfl phase phase fun passed hd => ⟨passed, hd.congr rfl rfl rfl, ?_⟩
      simp [Dispatcher.queued, Command.point?, next, ready.1]
  | @add point d held adds =>
      have same := adds.sameControl
      have phase : s.core.phase = .receiving ∨ s.core.phase = .draining :=
        adds.imp And.left And.left
      refine h.of_open rfl rfl phase (same.phase ▸ phase) fun passed hd =>
        ⟨passed ++ [point], adds.passed hd, ?_⟩
      simp [Dispatcher.queued, same.channel, held]
  | flush empty =>
      rcases s.core.flushDue_cases with heq | ⟨-, -, heq⟩
      · rw [heq]
        exact h.of_quiet rfl rfl rfl rfl rfl rfl (fun _ hd => hd) id
      · rw [heq]
        have same := s.core.sameControl_flush
        refine h.of_quiet rfl rfl same.config same.phase rfl ?_ (fun _ hd => hd.passed_flush)
          fun _ => s.core.count_flush
        rw [Dispatcher.queued, same.channel, Dispatcher.queued]
  | ask ready next phase =>
      refine h.of_open rfl rfl (Or.inl phase) (Or.inr rfl) fun passed hd =>
        ⟨passed, hd.congr rfl rfl rfl, ?_⟩
      simp [Dispatcher.queued, Command.point?, next, List.filterMap_cons]
  | @drain rest ready phase next =>
      have hphase : s.core.phase ≠ .receiving := by
        rw [phase]
        decide
      rcases next with ⟨hnil, rfl⟩ | next
      · exact h.drain ready phase (by simp [Dispatcher.queued, hnil]) rfl
      · -- A second request would end the draining with points left behind it, but there is none.
        have hnone := sparing.requests_eq hphase
        simp [Dispatcher.requests, next, Command.point?] at hnone
  | exit ready phase => exact h.exit orderly phase
  | answer answer storing =>
      rcases Dispatcher.storeReturned_cases storing answer with ⟨-, heq⟩ | ⟨-, log, heq⟩
      · rw [heq]
        exact h.of_quiet rfl rfl rfl rfl rfl rfl (fun _ hd => hd.congr rfl rfl rfl) id
      · rw [heq]
        exact h.of_quiet rfl rfl rfl rfl rfl rfl (fun _ hd => hd.congr rfl rfl rfl) id
  | @shutdown _ d c step =>
      have asks := step.asks
      have quiet := step.quiet
      refine h.of_quiet quiet.2.2.1 quiet.2.2.2 asks.config asks.phase rfl ?_
        (fun _ hd => hd.congr asks.config asks.batch asks.delivered) fun hzero => ?_
      · rcases asks.channel with heq | ⟨-, -, heq⟩
        · rw [Dispatcher.queued, heq, Dispatcher.queued]
        · simp [Dispatcher.queued, heq, Command.point?]
      · rw [asks.batch]
        exact hzero

end Progress

section Runs

variable [DataPoint P] {config : DispatcherConfig}

/-- What holds after every run. -/
structure Sound (config : DispatcherConfig) (acts : List (TrafficAct P)) (s : Traffic P) :
    Prop where
  config_eq : s.core.config = config
  orderly : s.Orderly
  sparing : Sparing s.core s.caller
  ledger : Ledger acts s
  progress : Progress acts s

theorem config_step (step : Step s act s') : s'.core.config = s.core.config := by
  cases step with
  | offer point =>
      rcases s.core.dispatch_cases point with ⟨-, -, heq⟩ | ⟨log, heq⟩
      · rw [heq]
      · rw [heq]
  | receive | ask | exit => rfl
  | add held adds => exact adds.sameControl.config
  | flush empty =>
      rcases s.core.flushDue_cases with heq | ⟨-, -, heq⟩
      · rw [heq]
      · rw [heq]
        exact s.core.sameControl_flush.config
  | drain => exact (Dispatcher.sameControl_flush _).config
  | answer answer storing => exact (s.core.sameControl_storeReturned answer).config
  | shutdown step => exact step.asks.config

theorem sound_start (hbatch : 1 ≤ config.batchSize.toNat) :
    Sound config [] (start config : Traffic P) where
  config_eq := rfl
  orderly := orderly_start config
  sparing := sparing_start config
  ledger := ledger_start config
  progress := progress_start hbatch

theorem Sound.step (h : Sound config acts s) (step : Step s act s') :
    Sound config (acts ++ [act]) s' where
  config_eq := (config_step step).trans h.config_eq
  orderly := h.orderly.step step
  sparing := h.sparing.step step
  ledger := h.ledger.step h.orderly step
  progress := h.progress.step h.orderly h.sparing step

theorem sound_of_run (hbatch : 1 ≤ config.batchSize.toNat)
    (run : Runs Step (start config) acts s) : Sound config acts s :=
  run.keeps (sound_start hbatch) fun h step => h.step step

end Runs

end Traffic

end EndpointMonitor
