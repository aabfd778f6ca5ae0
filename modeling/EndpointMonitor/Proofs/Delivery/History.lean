import EndpointMonitor.Proofs.Delivery.Traffic
import Mathlib.Algebra.GroupWithZero.Nat

/-!
# What has happened so far

The steps so far, summed up as lists and numbers: which points were taken, which came after the
last look of the worker, what the storage has answered. Beside them two facts about all states
that do not depend on the points: the channel is bounded and ends with the worker, and no more
than one shutdown request is ever made.
-/

namespace EndpointMonitor

variable {P : Type}

/-- The point of a command. -/
def Command.point? : Command P → Option P
  | .store point => some point
  | .shutdown => none

/-- The points in the channel. -/
def Dispatcher.queued (d : Dispatcher P) : List P :=
  d.channel.filterMap Command.point?

/-- The number of shutdown requests in the channel. -/
def Dispatcher.requests (d : Dispatcher P) : Nat :=
  d.channel.countP fun c => c.point?.isNone

namespace TrafficAct

/-- The point that a producer was told is taken. -/
def accepted? : TrafficAct P → Option P
  | .offered point true => some point
  | _ => none

/-- Whether a producer was told that a point is dropped. -/
def isRefusal : TrafficAct P → Bool
  | .offered _ false => true
  | _ => false

/-- The answer of the storage with the payload it is about. -/
def answer? : TrafficAct P → Option (Payload P × Except StorageError Unit)
  | .answered payload answer => some (payload, answer)
  | _ => none

/-- Whether the worker looks into the channel for the last time. -/
def isLastLook : TrafficAct P → Bool
  | .drained => true
  | _ => false

/-- The points that were taken, in the order of the channel. -/
def accepted (acts : List (TrafficAct P)) : List P :=
  acts.filterMap accepted?

/-- The number of points that were dropped. -/
def refused (acts : List (TrafficAct P)) : Nat :=
  acts.countP isRefusal

/-- What the storage has answered. -/
def answers (acts : List (TrafficAct P)) : List (Payload P × Except StorageError Unit) :=
  acts.filterMap answer?

/-- The number of points that were stored. -/
def storedTotal (acts : List (TrafficAct P)) : Nat :=
  (((answers acts).filter (·.2.isOk)).map (·.1.count)).sum

/-- The number of payloads that were not stored. -/
def failedTotal (acts : List (TrafficAct P)) : Nat :=
  (answers acts).countP fun a => !a.2.isOk

/-- The points that were taken after the last look of the worker into the channel. -/
def late : List (TrafficAct P) → List P
  | [] => []
  | act :: rest => if act.isLastLook then accepted rest else late rest

variable (acts : List (TrafficAct P)) (act : TrafficAct P)

theorem accepted_concat : accepted (acts ++ [act]) = accepted acts ++ act.accepted?.toList := by
  rw [accepted, List.filterMap_append, accepted]
  cases h : act.accepted? <;> simp [h]

theorem answers_concat : answers (acts ++ [act]) = answers acts ++ act.answer?.toList := by
  rw [answers, List.filterMap_append, answers]
  cases h : act.answer? <;> simp [h]

theorem late_concat : late (acts ++ [act]) =
    if acts.any isLastLook then late acts ++ act.accepted?.toList else [] := by
  induction acts with
  | nil => simp [late, accepted]
  | cons head rest ih =>
      rw [List.cons_append, late, late, List.any_cons]
      cases head.isLastLook with
      | true => simp [accepted_concat]
      | false => simpa using ih

variable {acts act}

theorem late_eq_nil (h : acts.any isLastLook = false) : late acts = [] := by
  induction acts with
  | nil => rfl
  | cons head rest ih =>
      rw [List.any_cons, Bool.or_eq_false_iff] at h
      rw [late, h.1]
      exact ih h.2

/-- An act by which no point is taken leaves what came late as it was. -/
theorem late_concat_of_quiet (haccepted : act.accepted? = none) :
    late (acts ++ [act]) = late acts := by
  rw [late_concat, haccepted, Option.toList_none, List.append_nil]
  cases h : acts.any isLastLook with
  | true => rfl
  | false => exact (late_eq_nil h).symm

theorem any_isLastLook_concat (hlook : act.isLastLook = false) :
    (acts ++ [act]).any isLastLook = acts.any isLastLook := by
  simp [hlook]

end TrafficAct

namespace Traffic

open TrafficAct

variable {s s' : Traffic P} {act : TrafficAct P} {acts : List (TrafficAct P)}

/-- The callers of shutdown offer no points, and none of their steps is one of the storage or of
the worker. -/
theorem CallStep.quiet [DataPoint P] {d d' : Dispatcher P} {c c' : CallPhase}
    (h : CallStep d c act d' c') : act.isRefusal = false ∧ act.answer? = none ∧
      act.accepted? = none ∧ act.isLastLook = false := by
  cases h with
  | call | request | giveUp | timeOut | finish | callAgain => exact ⟨rfl, rfl, rfl, rfl⟩

section Control

/-- The channel is bounded and ends with the worker, and a point in the hand of the worker is on
its way into the batch. -/
structure Orderly (s : Traffic P) : Prop where
  channel_le : s.core.channel.length ≤ s.core.capacity
  stopped : s.core.phase = .stopped → s.core.channel = []
  held : s.hand ≠ none →
    s.core.storing = none ∧ (s.core.phase = .receiving ∨ s.core.phase = .draining)

theorem orderly_start (config : DispatcherConfig) : Orderly (start config : Traffic P) where
  channel_le := Nat.zero_le _
  stopped h := by cases h
  held h := absurd rfl h

/-- What changes neither channel nor phase and leaves the hand empty. -/
theorem Orderly.of_sameControl (h : s.Orderly) {d : Dispatcher P} (same : s.core.SameControl d)
    (caller : CallPhase) : Orderly { core := d, hand := none, caller } where
  channel_le := by
    simp only [Dispatcher.capacity, same.channel, same.config]
    exact h.channel_le
  stopped hphase := by
    simp only [same.phase, same.channel] at hphase ⊢
    exact h.stopped hphase
  held hhand := absurd rfl hhand

variable [DataPoint P]

theorem Orderly.step (h : s.Orderly) (step : Step s act s') : s'.Orderly := by
  have tail_le : ∀ {command rest}, s.core.channel = command :: rest →
      rest.length ≤ s.core.capacity := by
    intro command rest next
    have hle := h.channel_le
    rw [next, List.length_cons] at hle
    exact Nat.le_of_succ_le hle
  cases step with
  | offer point =>
      rcases s.core.dispatch_cases point with ⟨hphase, hroom, heq⟩ | ⟨log, heq⟩
      · rw [heq]
        refine ⟨?_, fun hstopped => absurd hstopped hphase, h.held⟩
        rw [List.length_append]
        exact hroom
      · rw [heq]
        exact ⟨h.channel_le, h.stopped, h.held⟩
  | receive ready next phase =>
      refine ⟨tail_le next, fun hstopped => ?_, fun _ => ⟨ready.2, phase⟩⟩
      have hnil := h.stopped hstopped
      rw [next] at hnil
      cases hnil
  | add held adds => exact h.of_sameControl adds.sameControl s.caller
  | flush empty =>
      obtain ⟨core, hand, caller⟩ := s
      cases empty
      rcases core.flushDue_cases with heq | ⟨-, -, heq⟩
      · rw [heq]
        exact h
      · rw [heq]
        exact h.of_sameControl (core.sameControl_flush) caller
  | ask ready next phase =>
      refine ⟨tail_le next, (fun hstopped => by cases hstopped), fun hhand => ?_⟩
      exact absurd ready.1 hhand
  | @drain rest ready phase next =>
      have hle : rest.length ≤ s.core.capacity := by
        rcases next with ⟨-, rfl⟩ | next
        · exact Nat.zero_le _
        · exact tail_le next
      have closing : Orderly { s with
          core := { s.core with channel := rest, phase := .closing }, hand := none } :=
        ⟨hle, (fun hstopped => by cases hstopped), fun hhand => absurd rfl hhand⟩
      rw [ready.1]
      exact closing.of_sameControl (Dispatcher.sameControl_flush _) s.caller
  | exit ready phase =>
      refine ⟨Nat.zero_le _, fun _ => rfl, fun hhand => ?_⟩
      exact absurd ready.1 hhand
  | answer answer storing =>
      have empty : s.hand = none := by
        by_contra hhand
        rw [(h.held hhand).1] at storing
        cases storing
      rw [empty]
      exact h.of_sameControl (s.core.sameControl_storeReturned answer) s.caller
  | @shutdown _ d c step =>
      have asks := step.asks
      have hcapacity : d.capacity = s.core.capacity := by
        rw [Dispatcher.capacity, asks.config, Dispatcher.capacity]
      refine ⟨?_, fun hstopped => ?_, ?_⟩
      · rw [hcapacity]
        rcases asks.channel with heq | ⟨-, hroom, heq⟩
        · rw [heq]
          exact h.channel_le
        · rw [heq, List.length_append]
          exact hroom
      · rcases asks.channel with heq | ⟨hphase, -, -⟩
        · rw [heq]
          exact h.stopped (asks.phase ▸ hstopped)
        · exact absurd (asks.phase ▸ hstopped) hphase
      · rw [asks.storing, asks.phase]
        exact h.held

end Control

section Requests

/-- The number of requests that have been made at most in a phase of the call. -/
def allowance : CallPhase → Nat
  | .uncalled => 0
  | .requesting => 0
  | .waiting => 1
  | .returned => 1

/-- The requests in the channel and the one that the worker has taken. -/
def asked (d : Dispatcher P) : Nat :=
  d.requests + if d.phase = .receiving then 0 else 1

/-- No request is made but by the call that has taken the worker over. -/
structure Sparing (d : Dispatcher P) (c : CallPhase) : Prop where
  uncalled : d.takenOver = false → c = .uncalled
  asked_le : asked d ≤ allowance c

theorem sparing_start (config : DispatcherConfig) :
    Sparing (Dispatcher.start config : Dispatcher P) .uncalled :=
  ⟨fun _ => rfl, Nat.le_refl 0⟩

variable {d d' : Dispatcher P} {c c' : CallPhase}

theorem Sparing.congr (h : Sparing d c) (hchannel : d'.channel = d.channel)
    (hphase : d'.phase = d.phase) (htaken : d'.takenOver = d.takenOver) : Sparing d' c where
  uncalled := htaken ▸ h.uncalled
  asked_le := by
    rw [asked, Dispatcher.requests, hchannel, hphase]
    exact h.asked_le

/-- Behind a request that the worker has taken there is no other. -/
theorem Sparing.requests_eq (h : Sparing d c) (hphase : d.phase ≠ .receiving) :
    d.requests = 0 := by
  have hle := h.asked_le
  rw [asked, if_neg hphase] at hle
  cases c with
  | uncalled | requesting | waiting | returned =>
      simp only [allowance] at hle
      omega

variable [DataPoint P]

theorem Sparing.callStep (h : Sparing d c) (step : CallStep d c act d' c') : Sparing d' c' := by
  have hle := h.asked_le
  have taken : c ≠ .uncalled → d.takenOver ≠ false := fun hc hfree => hc (h.uncalled hfree)
  cases step with
  | call first =>
      rcases d.takeOver_cases with ⟨-, heq⟩ | ⟨hfree, heq⟩
      · rw [heq] at first
        cases first
      · rw [heq] at first
        cases first
        rw [h.uncalled hfree] at hle
        exact ⟨fun hfree => absurd hfree (by simp), hle⟩
  | request fits =>
      rcases d.requestShutdown_cases with ⟨-, heq⟩ | ⟨-, -, heq⟩ | heq
      · rw [heq] at fits
        cases fits
        exact ⟨fun hfree => absurd hfree (taken (by decide)), Nat.le_succ_of_le hle⟩
      · rw [heq] at fits
        cases fits
        refine ⟨fun hfree => absurd hfree (taken (by decide)), ?_⟩
        have hone : Dispatcher.requests { d with channel := d.channel ++ [.shutdown] } =
            d.requests + 1 := by
          simp [Dispatcher.requests, Command.point?]
        rw [asked, hone]
        rw [asked] at hle
        simp only [allowance] at hle ⊢
        omega
      · rw [heq] at fits
        cases fits
  | giveUp full =>
      rcases d.requestShutdown_cases with ⟨-, heq⟩ | ⟨-, -, heq⟩ | heq
      · rw [heq] at full
        cases full
      · rw [heq] at full
        cases full
      · rw [heq] at full
        cases full
        exact ⟨fun hfree => absurd hfree (taken (by decide)), Nat.le_succ_of_le hle⟩
  | timeOut timeout unfinished =>
      exact ⟨fun hfree => absurd hfree (taken (by decide)), hle⟩
  | finish finished =>
      exact ⟨fun hfree => absurd hfree (taken (by decide)), hle⟩
  | callAgain later =>
      rcases d.takeOver_cases with ⟨-, heq⟩ | ⟨-, heq⟩
      · rw [heq] at later
        cases later
        exact h
      · rw [heq] at later
        cases later

theorem Sparing.step (h : Sparing s.core s.caller) (step : Step s act s') :
    Sparing s'.core s'.caller := by
  have hle := h.asked_le
  cases step with
  | offer point =>
      rcases s.core.dispatch_cases point with ⟨-, -, heq⟩ | ⟨log, heq⟩
      · rw [heq]
        refine ⟨h.uncalled, ?_⟩
        simpa [asked, Dispatcher.requests, Command.point?] using hle
      · rw [heq]
        exact h.congr rfl rfl rfl
  | receive ready next phase =>
      refine ⟨h.uncalled, ?_⟩
      simpa [asked, Dispatcher.requests, Command.point?, next] using hle
  | add held adds =>
      have same := adds.sameControl
      exact h.congr same.channel same.phase same.takenOver
  | flush empty =>
      rcases s.core.flushDue_cases with heq | ⟨-, -, heq⟩
      · rw [heq]
        exact h
      · rw [heq]
        have same := s.core.sameControl_flush
        exact h.congr same.channel same.phase same.takenOver
  | ask ready next phase =>
      refine ⟨h.uncalled, ?_⟩
      simpa [asked, Dispatcher.requests, Command.point?, next, phase] using hle
  | @drain rest ready phase next =>
      have same := Dispatcher.sameControl_flush { s.core with channel := rest, phase := .closing }
      have hphase : s.core.phase ≠ .receiving := by
        rw [phase]
        decide
      refine Sparing.congr (d := { s.core with channel := rest, phase := .closing })
        ⟨h.uncalled, ?_⟩ same.channel same.phase same.takenOver
      rcases next with ⟨-, rfl⟩ | next
      · rw [asked, if_neg hphase] at hle
        simp [asked, Dispatcher.requests]
        omega
      · have hnone := h.requests_eq hphase
        simp [Dispatcher.requests, next, Command.point?] at hnone
  | exit ready phase =>
      refine ⟨h.uncalled, ?_⟩
      have hphase : s.core.phase ≠ .receiving := by
        rw [phase]
        decide
      rw [asked, if_neg hphase] at hle
      simp [asked, Dispatcher.requests]
      omega
  | answer answer storing =>
      have same := s.core.sameControl_storeReturned answer
      exact h.congr same.channel same.phase same.takenOver
  | shutdown step => exact h.callStep step

end Requests

end Traffic

end EndpointMonitor
