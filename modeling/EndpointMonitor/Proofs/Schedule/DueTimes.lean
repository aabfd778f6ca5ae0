import EndpointMonitor.Proofs.Schedule.Mirroring

/-!
# Due times in a queue that follows events

An event about a resource gives all of its measurements new due times, whichever of them have
changed, and leaves those of all others alone.
-/

namespace EndpointMonitor.CollectionQueue

variable {L D : Type} [MeasurementKind D] {q : CollectionQueue L D} {v w : View L}
  {events : List (GraphEvent L)} {now : UInt64} {x : String}

section Others

theorem InStep.observe (h : InStep [] q) (event : GraphEvent L) :
    InStep [] (q.observe now event) := by
  cases event with
  | added r => exact h.schedule _
  | modified r => exact (h.unschedule _).schedule _
  | removed r => exact h.unschedule _

theorem InStep.mem_observe_of_ne (h : InStep [] q) {event : GraphEvent L} {e : QueueEntry L D}
    (hne : e.resource.id ≠ event.about) : e ∈ (q.observe now event).toList ↔ e ∈ q.toList := by
  cases event with
  | added r => exact h.mem_enter_of_ne hne
  | modified r => exact ((h.unschedule _).mem_enter_of_ne hne).trans (h.mem_drop_of_ne hne)
  | removed r => exact h.mem_drop_of_ne hne

/-- What is not heard of keeps its entries. -/
theorem InStep.mem_foldl_observe (h : InStep [] q) {e : QueueEntry L D}
    (unheard : ∀ event ∈ events, e.resource.id ≠ event.about) :
    e ∈ (events.foldl (CollectionQueue.observe now) q).toList ↔ e ∈ q.toList := by
  induction events generalizing q with
  | nil => exact .rfl
  | cons event rest ih =>
      obtain ⟨hne, hrest⟩ := List.forall_mem_cons.1 unheard
      exact (ih (h.observe event) hrest).trans (h.mem_observe_of_ne hne)

end Others

section Renewal

/-- All measurements of a resource are scheduled, each one interval after a time. -/
structure Renewed (now : UInt64) (x : String) (q : CollectionQueue L D) (v : View L) : Prop where
  due : ∀ {e}, e ∈ q.toList → e.resource.id = x →
    e.due = nextDue now e.measurement.intervalMillis
  hasAll : HasAll q v x

theorem Knows.renewed_drop (h : Knows q v) {y : String} (hx : x = y ∨ Renewed now x q v) :
    Renewed now x (q.unschedule [y]) (Function.update v y none) where
  due {e} he hid := by
    obtain ⟨he, hy⟩ := (h.inStep.mem_unschedule [y] e).1 he
    exact (hx.resolve_left fun hxy => hy (List.mem_singleton.2 (hid.trans hxy))).due he hid
  hasAll := h.inStep.hasAll_drop (hx.imp_right Renewed.hasAll)

theorem Knows.renewed_enter (h : Knows q v) {r : Resource L} (absent : v r.id = none)
    (hx : x = r.id ∨ Renewed now x q v) : Renewed now x
      (q.schedule (QueueEntry.ofResource now r)) (Function.update v r.id (some r)) where
  due {e} he hid := by
    rcases h.inStep.mem_enter_cases he with hnew | hold
    · obtain ⟨m, -, rfl⟩ := mem_ofResource_iff.1 hnew
      rfl
    · refine (hx.resolve_left fun hxr => ?_).due hold hid
      have hknown := h.known hold
      rw [hid, hxr, absent] at hknown
      cases hknown
  hasAll := h.inStep.hasAll_enter (hx.imp_right Renewed.hasAll)

theorem Knows.replace (h : Knows q v) (now : UInt64) (r : Resource L) :
    Knows ((q.unschedule [r.id]).schedule (QueueEntry.ofResource now r))
      (Function.update v r.id (some r)) := by
  have entered := (h.drop r.id).enter now (r := r) (Function.update_self ..)
  rwa [Function.update_idem] at entered

theorem Knows.renewed_replace (h : Knows q v) {r : Resource L}
    (hx : x = r.id ∨ Renewed now x q v) : Renewed now x
      ((q.unschedule [r.id]).schedule (QueueEntry.ofResource now r))
      (Function.update v r.id (some r)) := by
  have entered : Renewed now x _ _ := (h.drop r.id).renewed_enter (r := r)
    (Function.update_self ..) (.inr (h.renewed_drop hx))
  rwa [Function.update_idem] at entered

/-- Following events that contradict nothing that is known, a queue knows what they lead to. -/
theorem Knows.follow (h : Knows q v) (now : UInt64) (replays : Replays v events w) :
    Knows (events.foldl (observe now) q) w := by
  induction replays generalizing q with
  | done => exact h
  | added absent _ ih => exact ih (h.enter now absent)
  | modified _ _ ih => exact ih (h.replace now _)
  | removed _ _ ih => exact ih (h.drop _)

/-- What is heard of is scheduled anew. -/
theorem Knows.renewed_follow (h : Knows q v) (replays : Replays v events w)
    (heard : Renewed now x q v ∨ ∃ event ∈ events, event.about = x) :
    Renewed now x (events.foldl (observe now) q) w := by
  have split : ∀ {event : GraphEvent L} {rest} {q : CollectionQueue L D} {v : View L},
      (Renewed now x q v ∨ ∃ e ∈ event :: rest, e.about = x) →
      (x = event.about ∨ Renewed now x q v) ∨ ∃ e ∈ rest, e.about = x := by
    intro event rest q v h
    rcases h with renewed | ⟨e, he, hx⟩
    · exact .inl (.inr renewed)
    · rcases List.mem_cons.1 he with rfl | he
      · exact .inl (.inl hx.symm)
      · exact .inr ⟨e, he, hx⟩
  induction replays generalizing q with
  | done => exact heard.resolve_right (by simp)
  | added absent _ ih =>
      exact ih (h.enter now absent) ((split heard).imp_left (h.renewed_enter absent))
  | modified _ _ ih => exact ih (h.replace now _) ((split heard).imp_left h.renewed_replace)
  | removed _ _ ih => exact ih (h.drop _) ((split heard).imp_left h.renewed_drop)

end Renewal

end EndpointMonitor.CollectionQueue
