import EndpointMonitor.Delivery.Worker
import EndpointMonitor.Proofs.Delivery.Batches
import EndpointMonitor.Proofs.Runs

/-!
# Producers, worker, storage and shutdown

The steps of all who use a dispatcher, in any order that is possible. The worker takes a point
from the channel in one step and adds it to its batch in the next; producers may come between.
The first shutdown call takes the worker over, asks it to finish, and waits or gives up; every
later call returns at once.
-/

namespace EndpointMonitor

/-- Where the shutdown call stands that has taken the worker over. -/
inductive CallPhase where
  /-- There is no such call. -/
  | uncalled
  /-- The request is not yet in the channel. -/
  | requesting
  /-- The worker has to finish. -/
  | waiting
  | returned
  deriving DecidableEq

/-- A dispatcher in use: the point that the worker has taken from the channel and not yet added
to its batch, and the shutdown call that has taken the worker over. -/
structure Traffic (P : Type) where
  core : Dispatcher P
  hand : Option P := none
  caller : CallPhase := .uncalled

/-- What happens in a step. -/
inductive TrafficAct (P : Type) where
  /-- A producer offers a point, which is taken or not. -/
  | offered (point : P) (taken : Bool)
  /-- The worker takes a point from the channel. -/
  | received
  /-- The worker adds the point to its batch. -/
  | added
  /-- The flush interval has passed. -/
  | flushDue
  /-- The worker takes a shutdown request from the channel. -/
  | asked
  /-- The worker looks into the channel for the last time. -/
  | drained
  /-- The worker ends, and the channel with it. -/
  | exited
  /-- The storage answers the call with a payload. -/
  | answered (payload : Payload P) (answer : Except StorageError Unit)
  /-- A shutdown call takes the worker over. -/
  | called
  /-- Its request gets into the channel, or the worker is gone. -/
  | requested
  /-- A shutdown call returns, the one that has taken the worker over or a later one. -/
  | returned (first done : Bool)

namespace Traffic

variable {P : Type}

/-- The worker is about to look at its channel. -/
def Ready (s : Traffic P) : Prop :=
  s.hand = none ∧ s.core.storing = none

/-- A dispatcher that nobody has used yet. -/
def start (config : DispatcherConfig) : Traffic P :=
  { core := .start config }

variable [DataPoint P]

/-- The worker adds a point to its batch, before a shutdown request or behind it. -/
def Adds (d : Dispatcher P) (point : P) (d' : Dispatcher P) : Prop :=
  d.phase = .receiving ∧ d' = d.receivePoint point ∨
    d.phase = .draining ∧ d' = d.takePoint point

/-- What the callers of shutdown do. -/
inductive CallStep :
    Dispatcher P → CallPhase → TrafficAct P → Dispatcher P → CallPhase → Prop
  | call {d c d'} (first : d.takeOver = (d', true)) : CallStep d c .called d' .requesting
  | request {d d'} (fits : d.requestShutdown = (d', .requested)) :
      CallStep d .requesting .requested d' .waiting
  | giveUp {d d'} (full : d.requestShutdown = (d', .full)) :
      CallStep d .requesting (.returned true false) d'.noteUndrained .returned
  | timeOut {d} (timeout : String) (unfinished : d.isFinished = false) :
      CallStep d .waiting (.returned true false) (d.noteUnfinished timeout) .returned
  | finish {d} (finished : d.isFinished = true) :
      CallStep d .waiting (.returned true true) d .returned
  | callAgain {d c d'} (later : d.takeOver = (d', false)) :
      CallStep d c (.returned false true) d' c

/-- What a step does. -/
inductive Step : Traffic P → TrafficAct P → Traffic P → Prop
  | offer {s} (point : P) :
      Step s (.offered point (s.core.dispatch point).2)
        { s with core := (s.core.dispatch point).1 }
  | receive {s point rest} (ready : s.Ready) (next : s.core.channel = .store point :: rest)
      (phase : s.core.phase = .receiving ∨ s.core.phase = .draining) :
      Step s .received { s with core := { s.core with channel := rest }, hand := some point }
  | add {s point d} (held : s.hand = some point) (adds : Adds s.core point d) :
      Step s .added { s with core := d, hand := none }
  | flush {s} (empty : s.hand = none) : Step s .flushDue { s with core := s.core.flushDue }
  | ask {s rest} (ready : s.Ready) (next : s.core.channel = .shutdown :: rest)
      (phase : s.core.phase = .receiving) :
      Step s .asked { s with core := { s.core with channel := rest, phase := .draining } }
  | drain {s rest} (ready : s.Ready) (phase : s.core.phase = .draining)
      (next : s.core.channel = [] ∧ rest = [] ∨ s.core.channel = .shutdown :: rest) :
      Step s .drained
        { s with core := { s.core with channel := rest, phase := .closing }.flush }
  | exit {s} (ready : s.Ready) (phase : s.core.phase = .closing) :
      Step s .exited { s with core := { s.core with channel := [], phase := .stopped } }
  | answer {s payload} (answer : Except StorageError Unit)
      (storing : s.core.storing = some payload) :
      Step s (.answered payload answer) { s with core := s.core.storeReturned answer }
  | shutdown {s act d c} (step : CallStep s.core s.caller act d c) :
      Step s act { s with core := d, caller := c }

section Effects

variable {d d' : Dispatcher P} {c c' : CallPhase} {act : TrafficAct P} {point : P}

/-- The callers of shutdown at most put a request into the channel. -/
structure Asks (d d' : Dispatcher P) : Prop where
  config : d'.config = d.config
  phase : d'.phase = d.phase
  batch : d'.batch = d.batch
  storing : d'.storing = d.storing
  delivered : d'.delivered = d.delivered
  stats : d'.stats = d.stats
  channel : d'.channel = d.channel ∨
    d.phase ≠ .stopped ∧ d.channel.length < d.capacity ∧ d'.channel = d.channel ++ [.shutdown]

theorem CallStep.asks (h : CallStep d c act d' c') : Asks d d' := by
  have same : ∀ {takenOver log}, Asks d { d with takenOver, log } :=
    ⟨rfl, rfl, rfl, rfl, rfl, rfl, .inl rfl⟩
  cases h with
  | call taken | callAgain taken =>
      have hd : d.takeOver.1 = d' := congrArg Prod.fst taken
      rw [← hd]
      rcases d.takeOver_cases with ⟨-, heq⟩ | ⟨-, heq⟩
      · rw [heq]
        exact same
      · rw [heq]
        exact same
  | request fits =>
      rcases d.requestShutdown_cases with ⟨-, heq⟩ | ⟨hphase, hroom, heq⟩ | heq
      · rw [heq] at fits
        cases fits
        exact same
      · rw [heq] at fits
        cases fits
        exact ⟨rfl, rfl, rfl, rfl, rfl, rfl, .inr ⟨hphase, hroom, rfl⟩⟩
      · rw [heq] at fits
        cases fits
  | giveUp full =>
      rcases d.requestShutdown_cases with ⟨-, heq⟩ | ⟨-, -, heq⟩ | heq
      · rw [heq] at full
        cases full
      · rw [heq] at full
        cases full
      · rw [heq] at full
        cases full
        exact same
  | timeOut | finish => exact same

theorem Adds.sameControl (h : Adds d point d') : d.SameControl d' := by
  rcases h with ⟨-, rfl⟩ | ⟨-, rfl⟩
  · exact d.sameControl_receivePoint point
  · exact d.sameControl_takePoint point

theorem Adds.stats_eq (h : Adds d point d') : d'.stats = d.stats := by
  rcases h with ⟨-, rfl⟩ | ⟨-, rfl⟩
  · exact d.stats_receivePoint point
  · exact d.stats_takePoint point

theorem Adds.passed (h : Adds d point d') {passed : List P} (hd : d.Passed passed) :
    d'.Passed (passed ++ [point]) := by
  rcases h with ⟨-, rfl⟩ | ⟨-, rfl⟩
  · exact hd.receivePoint point
  · exact hd.takePoint point

theorem Adds.answered (h : Adds d point d') {answered : List (Payload P)}
    (hd : d.Answered answered) (idle : d.storing = none) : d'.Answered answered := by
  rcases h with ⟨-, rfl⟩ | ⟨-, rfl⟩
  · exact hd.receivePoint idle point
  · exact hd.takePoint idle point

end Effects

section Sequential

variable {s s' : Traffic P} {d : Dispatcher P}

/-- A worker that nobody interrupts takes a point and adds it at once. -/
theorem reaches_workerStep (empty : s.hand = none) (h : s.core.workerStep = some d) :
    Reaches Step s { s with core := d } := by
  obtain ⟨core, hand, caller⟩ := s
  cases empty
  unfold Dispatcher.workerStep at h
  split at h
  · cases h
  · rename_i idle
    have ready : Ready ⟨core, none, caller⟩ := ⟨rfl, by simpa using idle⟩
    split at h
    · cases h
    · rename_i hphase
      cases h
      exact .single (.exit ready hphase)
    · rename_i hphase
      split at h
      · cases h
      · rename_i point rest hnext
        cases h
        have received := Step.receive ready hnext (.inl hphase)
        exact (Reaches.single received).tail (.add rfl (.inl ⟨hphase, rfl⟩))
      · rename_i rest hnext
        cases h
        exact .single (.ask ready hnext hphase)
    · rename_i hphase
      split at h
      · rename_i point rest hnext
        cases h
        have received := Step.receive ready hnext (.inr hphase)
        exact (Reaches.single received).tail (.add rfl (.inr ⟨hphase, rfl⟩))
      · rename_i rest hnext
        cases h
        exact .single (.drain ready hphase (.inr hnext))
      · rename_i hnext
        cases h
        have step := Step.drain ready hphase (.inl ⟨hnext, rfl⟩)
        simp only [← hnext] at step
        exact .single step

theorem reaches_answerStore {storage : Storage} (h : s.core.answerStore storage = some d) :
    Reaches Step s { s with core := d } := by
  unfold Dispatcher.answerStore at h
  split at h
  · rename_i hopen
    obtain ⟨payload, hstoring⟩ := Option.isSome_iff_exists.1 (Bool.and_eq_true_iff.1 hopen).1
    cases h
    exact .single (.answer _ hstoring)
  · cases h

theorem reaches_runWorker (storage : Storage) (fuel : Nat) (empty : s.hand = none) :
    Reaches Step s { s with core := s.core.runWorker storage fuel } := by
  induction fuel generalizing s with
  | zero => exact .refl s
  | succ fuel ih =>
      unfold Dispatcher.runWorker
      split
      · rename_i next hnext
        have first : Reaches Step s { s with core := next } := by
          cases hanswer : s.core.answerStore storage with
          | none =>
              rw [hanswer] at hnext
              exact reaches_workerStep empty hnext
          | some d =>
              rw [hanswer] at hnext
              have hsame : d = next := Option.some.inj hnext
              subst hsame
              exact reaches_answerStore hanswer
        exact first.trans (ih empty)
      · exact .refl s

/-- What a shutdown call finds when the worker runs as far as it can is what it finds in one of
the runs. -/
theorem run_shutdown (storage : Storage) (timeoutMillis : UInt64) (empty : s.hand = none) :
    ∃ acts first s₁ s₂, Runs Step s acts s₁ ∧
      Step s₁ (.returned first (s.core.shutdown storage timeoutMillis).2) s₂ ∧
      s₂.core = (s.core.shutdown storage timeoutMillis).1 := by
  have settled : ∀ {t : Traffic P}, t.hand = none →
      Reaches Step t { t with core := t.core.settle storage } := fun empty =>
    reaches_runWorker storage _ empty
  unfold Dispatcher.shutdown
  rcases htake : s.core.takeOver with ⟨d, _ | _⟩
  · exact ⟨[], false, s, _, .start, .shutdown (.callAgain htake), rfl⟩
  · have called : Runs Step s [.called] { s with core := d, caller := .requesting } :=
      Runs.start.snoc (.shutdown (.call htake))
    obtain ⟨acts, worked⟩ := called.extend (settled empty)
    rcases hask : (d.settle storage).requestShutdown with ⟨d', _ | _⟩
    · have requested := worked.snoc (.shutdown (.request hask))
      obtain ⟨acts', finished⟩ := requested.extend (settled empty)
      simp only [hask, Bool.not_true, Bool.false_eq_true, if_false]
      split
      · rename_i hfinished
        exact ⟨_, true, _, _, finished, .shutdown (.finish hfinished), rfl⟩
      · rename_i hunfinished
        exact ⟨_, true, _, _, finished,
          .shutdown (.timeOut _ (Bool.eq_false_iff.2 hunfinished)), rfl⟩
    · simp only [hask, Bool.not_true, Bool.false_eq_true, if_false]
      exact ⟨_, true, _, _, worked, .shutdown (.giveUp hask), rfl⟩

end Sequential

end Traffic

end EndpointMonitor
