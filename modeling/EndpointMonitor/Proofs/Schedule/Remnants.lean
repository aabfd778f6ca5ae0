import EndpointMonitor.Proofs.Schedule.Mirroring

/-!
# Queues that hold nothing but stored measurements

A queue that is cleared while others go on to follow the resources may lack measurements, but
it never holds one of a resource that is not stored, once it has done its duties. And a queue
that is left alone always gets done with them.
-/

namespace EndpointMonitor

variable {L D : Type}

namespace CollectionQueue

/-- A collection from an empty queue leaves it empty. -/
theorem InStep.pop_eq_nil {q : CollectionQueue L D} (h : InStep [] q) (hempty : q.toList = [])
    (now : UInt64) :
    (q.pop now).1.toList = [] := by
  rw [List.eq_nil_iff_forall_not_mem]
  intro e he
  rcases ((h.pop now).2 e).1 he with ⟨d, hd, -⟩ | ⟨he, -⟩
  · simp [h.dueEntries_eq, hempty] at hd
  · simp [hempty] at he

end CollectionQueue

namespace QueueShare

open CollectionQueue

variable [MeasurementKind D] {s s' : QueueShare L D} {w w' : View L}

/-- The queue holds entries of known resources only, and its duties lead from there to what is
stored. -/
def Within (s : QueueShare L D) (w : View L) : Prop :=
  s.LeadsFrom Knows w

theorem within_empty : ({} : QueueShare L D).Within fun _ => none :=
  ⟨_, Knows.empty _, .done⟩

theorem Within.step (h : s.Within w) {act : QueueAct L D} (step : s.Step act s') :
    s'.Within w :=
  LeadsFrom.step h Knows.kept step

theorem Within.tell (h : s.Within w) (idle : s.duties = []) {events : List (GraphEvent L)}
    (replays : Replays w events w') : (s.tell events).Within w' :=
  LeadsFrom.tell h idle replays

/-- Clearing a queue takes nothing from its duties. -/
theorem Within.clear (h : s.Within w) : ({ s with queue := s.queue.clear }).Within w := by
  obtain ⟨v, -, leads⟩ := h
  exact ⟨v, Knows.clear _ v, leads⟩

/-- A queue that has done its duties holds entries of stored resources only. -/
theorem Within.knows (h : s.Within w) (idle : s.duties = []) : s.queue.Knows w :=
  LeadsFrom.of_idle h idle

/-- A queue that has done its duties holds nothing if nothing is stored. -/
theorem Within.toList_eq_nil (h : s.Within w) (idle : s.duties = []) (hnone : ∀ x, w x = none) :
    s.queue.toList = [] := by
  rw [List.eq_nil_iff_forall_not_mem]
  intro e he
  have hknown := (h.knows idle).known he
  rw [hnone] at hknown
  cases hknown

/-- Left alone, a queue gets done with its duties. -/
theorem reaches_idle (s : QueueShare L D) :
    ∃ t, Reaches Step s t ∧ t.duties = [] := by
  obtain ⟨queue, duties, reading, looks⟩ := s
  induction duties generalizing queue reading with
  | nil => exact ⟨_, .refl _, rfl⟩
  | cons duty rest ih =>
      cases duty with
      | drop x =>
          obtain ⟨t, reaches, idle⟩ := ih (queue.unschedule [x]) reading
          exact ⟨t, (Reaches.single (.drop rfl)).trans reaches, idle⟩
      | enter r =>
          have enter : ∀ now, ∃ t, Reaches Step
              ({ queue, duties := .enter r :: rest, reading := some now, looks } :
                QueueShare L D) t ∧ t.duties = [] := by
            intro now
            obtain ⟨t, reaches, idle⟩ :=
              ih (queue.schedule (QueueEntry.ofResource now r)) none
            exact ⟨t, (Reaches.single (.enter rfl rfl)).trans reaches, idle⟩
          cases reading with
          | some now => exact enter now
          | none =>
              obtain ⟨t, reaches, idle⟩ := enter 0
              exact ⟨t, (Reaches.single (.read 0 rfl rfl)).trans reaches, idle⟩

end QueueShare

end EndpointMonitor
