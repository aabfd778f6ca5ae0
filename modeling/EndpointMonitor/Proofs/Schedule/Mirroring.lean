import EndpointMonitor.Proofs.Resource.Replay
import EndpointMonitor.Proofs.Runs
import EndpointMonitor.Proofs.Schedule.QueueIndexes

/-!
# Queues that follow a resource graph

Whoever changes the resources tells each queue of every change, and the queue follows in steps
of its own: it drops the entries of a resource, reads the clock, and puts new entries in.
Between any two of these steps others read the clock and take what is due. The queue always
carries exactly the measurements of the resources it knows of, and its remaining duties lead
from these to the stored ones.
-/

namespace EndpointMonitor

variable {L D : Type}

/-- What a queue has to do after it was told of a change. -/
inductive QueueDuty (L : Type) where
  | drop (resource : String)
  | enter (r : Resource L)

/-- The identifier that a duty is about. -/
def QueueDuty.resource : QueueDuty L → String
  | .drop x => x
  | .enter r => r.id

/-- What a queue has to do about a change. -/
def GraphEvent.duties : GraphEvent L → List (QueueDuty L)
  | .added r => [.enter r]
  | .modified r => [.drop r.id, .enter r]
  | .removed r => [.drop r.id]

/-- Duties that lead a queue from one view to another and never enter what is known. -/
inductive Leads : View L → List (QueueDuty L) → View L → Prop
  | done {v} : Leads v [] v
  | drop {v x duties w} (rest : Leads (Function.update v x none) duties w) :
      Leads v (.drop x :: duties) w
  | enter {v r duties w} (absent : v r.id = none)
      (rest : Leads (Function.update v r.id (some r)) duties w) :
      Leads v (.enter r :: duties) w

namespace Leads

variable {v w : View L} {duties : List (QueueDuty L)}

/-- A resource that no duty is about is known already. -/
theorem eq_of_unmentioned (h : Leads v duties w) {x : String}
    (hx : ∀ d ∈ duties, d.resource ≠ x) : v x = w x := by
  induction h with
  | done => rfl
  | @drop _ y _ _ _ ih =>
      obtain ⟨hne, hrest⟩ := List.forall_mem_cons.1 hx
      have hne : x ≠ y := Ne.symm hne
      rw [← ih hrest, Function.update_of_ne hne]
  | @enter _ r _ _ _ _ ih =>
      obtain ⟨hne, hrest⟩ := List.forall_mem_cons.1 hx
      have hne : x ≠ r.id := Ne.symm hne
      rw [← ih hrest, Function.update_of_ne hne]

theorem eq_of_nil (h : Leads v [] w) : v = w := by
  cases h
  rfl

end Leads

/-- The duties of events lead where the events lead. -/
theorem Replays.leads {v w : View L} {events : List (GraphEvent L)} (h : Replays v events w) :
    Leads v (events.flatMap GraphEvent.duties) w := by
  induction h with
  | done => exact .done
  | added absent _ ih => exact .enter absent ih
  | modified _ _ ih =>
      refine .drop (.enter (Function.update_self ..) ?_)
      rwa [Function.update_idem]
  | removed _ _ ih => exact .drop ih

namespace CollectionQueue

variable {q : CollectionQueue L D}

section Scheduling

variable {es : List (QueueEntry L D)} {f : QueueEntry L D}

/-- What is in the queue afterwards was put in or was there before. -/
theorem InStep.mem_foldl_cases (h : InStep [] q)
    (hf : f ∈ (es.foldl CollectionQueue.scheduleOne q).toList) : f ∈ es ∨ f ∈ q.toList := by
  induction es generalizing q with
  | nil => exact Or.inr hf
  | cons e rest ih =>
      rcases ih (h.scheduleOne e) hf with hrest | hq
      · exact Or.inl (List.mem_cons_of_mem _ hrest)
      · rcases (h.mem_scheduleOne e f).1 hq with rfl | ⟨hq, -⟩
        · exact Or.inl List.mem_cons_self
        · exact Or.inr hq

/-- Entries of other measurements stay where they are. -/
theorem InStep.mem_foldl_of_mem (h : InStep [] q) (hf : f ∈ q.toList)
    (hid : ∀ e ∈ es, f.id ≠ e.id) : f ∈ (es.foldl CollectionQueue.scheduleOne q).toList := by
  induction es generalizing q with
  | nil => exact hf
  | cons e rest ih =>
      obtain ⟨he, hrest⟩ := List.forall_mem_cons.1 hid
      exact ih (h.scheduleOne e) ((h.mem_scheduleOne e f).2 (Or.inr ⟨hf, he⟩)) hrest

/-- Each measurement that is put in has an entry afterwards. -/
theorem InStep.exists_mem_foldl (h : InStep [] q) {e : QueueEntry L D} (he : e ∈ es) :
    ∃ f ∈ (es.foldl CollectionQueue.scheduleOne q).toList, f.id = e.id := by
  induction es generalizing q e with
  | nil => simp at he
  | cons d rest ih =>
      by_cases hrest : ∃ e' ∈ rest, e'.id = e.id
      · obtain ⟨e', he', hid⟩ := hrest
        rw [← hid]
        exact ih (h.scheduleOne d) he'
      · have heq : e = d := (List.mem_cons.1 he).resolve_right fun hmem => hrest ⟨e, hmem, rfl⟩
        subst heq
        refine ⟨e, ?_, rfl⟩
        refine (h.scheduleOne e).mem_foldl_of_mem
          ((h.mem_scheduleOne e e).2 (Or.inl rfl)) fun e' he' hid => ?_
        exact hrest ⟨e', he', hid.symm⟩

end Scheduling

theorem InStep.mem_of_mem_dueEntries (h : InStep [] q) {now : UInt64} {e : QueueEntry L D}
    (he : e ∈ q.dueEntries now) : e ∈ q.toList ∧ isDue now e.key = true := by
  rw [h.dueEntries_eq] at he
  exact List.mem_filter.1 he

variable [MeasurementKind D] {v : View L}

section Entries

variable {now : UInt64} {r : Resource L} {e : QueueEntry L D}

theorem mem_ofResource_iff :
    e ∈ QueueEntry.ofResource now r ↔ ∃ m ∈ MeasurementKind.instances r,
      e = ⟨r, m, nextDue now m.intervalMillis⟩ := by
  simp only [QueueEntry.ofResource, List.mem_map, eq_comm]

/-- After a resource was put in, the entries are its own and those from before. -/
theorem InStep.mem_enter_cases (h : InStep [] q)
    (he : e ∈ (q.schedule (QueueEntry.ofResource now r)).toList) :
    e ∈ QueueEntry.ofResource now r ∨ e ∈ q.toList := by
  rw [schedule_toList] at he
  exact h.mem_foldl_cases he

theorem InStep.mem_enter_of_ne (h : InStep [] q) (hne : e.resource.id ≠ r.id) :
    e ∈ (q.schedule (QueueEntry.ofResource now r)).toList ↔ e ∈ q.toList := by
  refine ⟨fun he => (h.mem_enter_cases he).resolve_left fun hnew => hne ?_, fun he => ?_⟩
  · obtain ⟨m, -, rfl⟩ := mem_ofResource_iff.1 hnew
    rfl
  · rw [schedule_toList]
    refine h.mem_foldl_of_mem he fun f hf heq => hne ?_
    obtain ⟨m, -, rfl⟩ := mem_ofResource_iff.1 hf
    exact congrArg MeasurementKey.resource heq

omit [MeasurementKind D] in
theorem InStep.mem_drop_of_ne (h : InStep [] q) {x : String} (hne : e.resource.id ≠ x) :
    e ∈ (q.unschedule [x]).toList ↔ e ∈ q.toList := by
  rw [h.mem_unschedule]
  exact and_iff_left fun hx => hne (List.mem_singleton.1 hx)

end Entries

/-- Whatever a queue does, the relation holds between it and what it knows of afterwards. -/
structure Kept (R : CollectionQueue L D → View L → Prop) : Prop where
  drop : ∀ {q v}, R q v → ∀ x, R (q.unschedule [x]) (Function.update v x none)
  enter : ∀ {q v}, R q v → ∀ now {r : Resource L}, v r.id = none →
    R (q.schedule (QueueEntry.ofResource now r)) (Function.update v r.id (some r))
  pop : ∀ {q v}, R q v → ∀ now, R (q.pop now).1 v

/-- Every entry is of a known resource. -/
structure Knows (q : CollectionQueue L D) (v : View L) : Prop where
  inStep : InStep [] q
  known : ∀ {e}, e ∈ q.toList → v e.resource.id = some e.resource
  measured : ∀ {e}, e ∈ q.toList → e.measurement ∈ MeasurementKind.instances e.resource

namespace Knows

theorem empty (v : View L) : Knows ({} : CollectionQueue L D) v where
  inStep := inStep_empty
  known he := by simp [toList] at he
  measured he := by simp [toList] at he

theorem clear (q : CollectionQueue L D) (v : View L) : Knows q.clear v where
  inStep := inStep_clear q
  known he := by simp at he
  measured he := by simp at he

/-- What is dropped is no longer known. -/
theorem drop (h : Knows q v) (x : String) :
    Knows (q.unschedule [x]) (Function.update v x none) where
  inStep := h.inStep.unschedule [x]
  known {e} he := by
    obtain ⟨he, hx⟩ := (h.inStep.mem_unschedule [x] e).1 he
    have hne : e.resource.id ≠ x := fun heq => hx (List.mem_singleton.2 heq)
    rw [Function.update_of_ne hne]
    exact h.known he
  measured {e} he := h.measured ((h.inStep.mem_unschedule [x] e).1 he).1

/-- What is put in was not known before. -/
theorem enter (h : Knows q v) (now : UInt64) {r : Resource L} (absent : v r.id = none) :
    Knows (q.schedule (QueueEntry.ofResource now r)) (Function.update v r.id (some r)) where
  inStep := h.inStep.schedule _
  known {e} he := by
    rcases h.inStep.mem_enter_cases he with hnew | hold
    · obtain ⟨m, hm, rfl⟩ := mem_ofResource_iff.1 hnew
      exact Function.update_self ..
    · have hknown := h.known hold
      have hne : e.resource.id ≠ r.id := by
        intro heq
        rw [heq, absent] at hknown
        cases hknown
      rw [Function.update_of_ne hne]
      exact hknown
  measured {e} he := by
    rcases h.inStep.mem_enter_cases he with hnew | hold
    · obtain ⟨m, hm, rfl⟩ := mem_ofResource_iff.1 hnew
      exact hm
    · exact h.measured hold

/-- A collection puts back what it takes. -/
theorem pop (h : Knows q v) (now : UInt64) : Knows (q.pop now).1 v where
  inStep := (h.inStep.pop now).1
  known {e} he := by
    rcases ((h.inStep.pop now).2 e).1 he with ⟨d, hd, rfl⟩ | ⟨he, -⟩
    · have hknown := h.known (h.inStep.mem_of_mem_dueEntries hd).1
      exact hknown
    · exact h.known he
  measured {e} he := by
    rcases ((h.inStep.pop now).2 e).1 he with ⟨d, hd, rfl⟩ | ⟨he, -⟩
    · have hmeasured := h.measured (h.inStep.mem_of_mem_dueEntries hd).1
      exact hmeasured
    · exact h.measured he

theorem kept : Kept (Knows (L := L) (D := D)) :=
  ⟨drop, enter, pop⟩

end Knows

/-- The queue has an entry for each measurement of what is known under an identifier. -/
def HasAll (q : CollectionQueue L D) (v : View L) (x : String) : Prop :=
  ∀ ⦃r m⦄, v x = some r → m ∈ MeasurementKind.instances (D := D) r →
    ∃ e ∈ q.toList, e.id = ⟨x, m.id⟩

section HasAll

variable {x y : String}

theorem InStep.hasAll_drop (h : InStep [] q) (hx : x = y ∨ HasAll q v x) :
    HasAll (q.unschedule [y]) (Function.update v y none) x := by
  intro r m hr hm
  by_cases hxy : x = y
  · simp [hxy] at hr
  · rw [Function.update_of_ne hxy] at hr
    obtain ⟨e, he, hid⟩ := hx.resolve_left hxy hr hm
    have hresource : e.resource.id = x := congrArg MeasurementKey.resource hid
    exact ⟨e, (h.mem_drop_of_ne (hresource.trans_ne hxy)).2 he, hid⟩

theorem InStep.hasAll_enter (h : InStep [] q) {now : UInt64} {r : Resource L}
    (hx : x = r.id ∨ HasAll q v x) :
    HasAll (q.schedule (QueueEntry.ofResource now r)) (Function.update v r.id (some r)) x := by
  intro s m hs hm
  by_cases hxr : x = r.id
  · subst hxr
    rw [Function.update_self] at hs
    cases hs
    rw [schedule_toList]
    exact h.exists_mem_foldl (mem_ofResource_iff.2 ⟨m, hm, rfl⟩)
  · rw [Function.update_of_ne hxr] at hs
    obtain ⟨e, he, hid⟩ := hx.resolve_left hxr hs hm
    have hresource : e.resource.id = x := congrArg MeasurementKey.resource hid
    exact ⟨e, (h.mem_enter_of_ne (hresource.trans_ne hxr)).2 he, hid⟩

theorem InStep.hasAll_pop (h : InStep [] q) (hx : HasAll q v x) (now : UInt64) :
    HasAll (q.pop now).1 v x := by
  intro r m hr hm
  obtain ⟨e, he, hid⟩ := hx hr hm
  cases hdue : isDue now e.key with
  | true =>
      have hmem : e ∈ q.dueEntries now := by
        rw [h.dueEntries_eq]
        exact List.mem_filter.2 ⟨he, hdue⟩
      exact ⟨e.again now, ((h.pop now).2 _).2 (Or.inl ⟨e, hmem, rfl⟩), hid⟩
  | false => exact ⟨e, ((h.pop now).2 e).2 (Or.inr ⟨he, hdue⟩), hid⟩

end HasAll

/-- The queue has an entry for each measurement of the known resources, and no others. -/
structure Carries (q : CollectionQueue L D) (v : View L) : Prop where
  inStep : InStep [] q
  known : ∀ {e}, e ∈ q.toList → v e.resource.id = some e.resource ∧
    e.measurement ∈ MeasurementKind.instances e.resource
  complete : ∀ {x r m}, v x = some r → m ∈ MeasurementKind.instances (D := D) r →
    ∃ e ∈ q.toList, e.id = ⟨x, m.id⟩

namespace Carries

theorem knows (h : Carries q v) : Knows q v :=
  ⟨h.inStep, fun he => (h.known he).1, fun he => (h.known he).2⟩

theorem hasAll (h : Carries q v) (x : String) : HasAll q v x :=
  fun _ _ hr hm => h.complete hr hm

theorem of_knows (h : Knows q v) (complete : ∀ x, HasAll q v x) : Carries q v :=
  ⟨h.inStep, fun he => ⟨h.known he, h.measured he⟩, fun hr hm => complete _ hr hm⟩

theorem empty : Carries ({} : CollectionQueue L D) fun _ => none :=
  .of_knows (.empty _) fun _ _ _ hx => by cases hx

theorem drop (h : Carries q v) (x : String) :
    Carries (q.unschedule [x]) (Function.update v x none) :=
  .of_knows (h.knows.drop x) fun y => h.inStep.hasAll_drop (.inr (h.hasAll y))

theorem enter (h : Carries q v) (now : UInt64) {r : Resource L} (absent : v r.id = none) :
    Carries (q.schedule (QueueEntry.ofResource now r)) (Function.update v r.id (some r)) :=
  .of_knows (h.knows.enter now absent) fun y => h.inStep.hasAll_enter (.inr (h.hasAll y))

theorem pop (h : Carries q v) (now : UInt64) : Carries (q.pop now).1 v :=
  .of_knows (h.knows.pop now) fun x => h.inStep.hasAll_pop (h.hasAll x) now

theorem kept : Kept (Carries (L := L) (D := D)) :=
  ⟨drop, enter, pop⟩

end Carries

/-- About some identifiers the queue agrees with what is stored: it has exactly one entry for
each measurement there, and a collection takes nothing else. -/
structure Mirrors (q : CollectionQueue L D) (g : ResourceGraph L) (about : String → Prop) :
    Prop where
  mem_ids_iff : ∀ id, about id.resource → (id ∈ q.toList.map (·.id) ↔
    ∃ r, g.get? id.resource = some r ∧
      ∃ m ∈ MeasurementKind.instances (D := D) r, m.id = id.measurement)
  nodup_ids : (q.toList.map (·.id)).Nodup
  stored : ∀ e ∈ q.toList, about e.resource.id → g.get? e.resource.id = some e.resource ∧
    e.measurement ∈ MeasurementKind.instances e.resource
  popped : ∀ now, ∀ e ∈ (q.pop now).2, about e.resource.id →
    g.get? e.resource.id = some e.resource ∧
      e.measurement ∈ MeasurementKind.instances e.resource

theorem Mirrors.mono {g : ResourceGraph L} {about about' : String → Prop}
    (h : q.Mirrors g about) (hsub : ∀ x, about' x → about x) : q.Mirrors g about' where
  mem_ids_iff id hid := h.mem_ids_iff id (hsub _ hid)
  nodup_ids := h.nodup_ids
  stored e he hid := h.stored e he (hsub _ hid)
  popped now e he hid := h.popped now e he (hsub _ hid)

/-- A queue that carries what is known agrees about all that is known rightly. -/
theorem Carries.mirrors (h : Carries q v) {g : ResourceGraph L} {about : String → Prop}
    (hknown : ∀ x, about x → v x = g.get? x) : q.Mirrors g about where
  mem_ids_iff id hid := by
    rw [← hknown _ hid, List.mem_map]
    constructor
    · rintro ⟨e, he, rfl⟩
      obtain ⟨hr, hm⟩ := h.known he
      exact ⟨e.resource, hr, e.measurement, hm, rfl⟩
    · rintro ⟨r, hr, m, hm, hmid⟩
      obtain ⟨e, he, heq⟩ := h.complete hr hm
      refine ⟨e, he, ?_⟩
      rw [heq, hmid]
  nodup_ids := h.inStep.nodup_ids
  stored e he hid := by
    rw [← hknown _ hid]
    exact h.known he
  popped now e he hid := by
    rw [← hknown _ hid]
    exact h.known (h.inStep.mem_of_mem_dueEntries he).1

end CollectionQueue

/-- A queue with what it has still to do, and with the clock readings in use. -/
structure QueueShare (L D : Type) where
  queue : CollectionQueue L D := {}
  duties : List (QueueDuty L) := []
  /-- The reading for the entries that are put in next. -/
  reading : Option UInt64 := none
  /-- The readings of those who are about to take what is due. -/
  looks : List UInt64 := []

/-- A step of a shared queue. -/
inductive QueueAct (L D : Type) where
  | drop (resource : String)
  /-- Read the clock for the entries of a resource. -/
  | read (now : UInt64)
  | enter (now : UInt64) (r : Resource L)
  /-- Read the clock for a collection. -/
  | look (now : UInt64)
  | pop (now : UInt64) (popped : List (QueueEntry L D))

namespace QueueShare

open CollectionQueue

/-- Tell the queue of changes. -/
def tell (s : QueueShare L D) (events : List (GraphEvent L)) : QueueShare L D :=
  { s with duties := events.flatMap GraphEvent.duties }

/-- Whether the queue has done all it has to do about an identifier. -/
def Heard (s : QueueShare L D) (x : String) : Prop :=
  ∀ d ∈ s.duties, d.resource ≠ x

theorem heard_of_idle {s : QueueShare L D} (idle : s.duties = []) (x : String) : s.Heard x := by
  simp [Heard, idle]

variable [MeasurementKind D]

/-- What a step does. Duties are done in order; collections happen at any time, each with a
clock reading that was made for one. -/
inductive Step : QueueShare L D → QueueAct L D → QueueShare L D → Prop
  | drop {s x rest} (next : s.duties = .drop x :: rest) :
      Step s (.drop x) { s with queue := s.queue.unschedule [x], duties := rest }
  | read {s r rest} (now : UInt64) (next : s.duties = .enter r :: rest)
      (unread : s.reading = none) : Step s (.read now) { s with reading := some now }
  | enter {s now r rest} (next : s.duties = .enter r :: rest) (read : s.reading = some now) :
      Step s (.enter now r)
        { s with
          queue := s.queue.schedule (QueueEntry.ofResource now r)
          duties := rest
          reading := none }
  | look {s} (now : UInt64) : Step s (.look now) { s with looks := now :: s.looks }
  | pop {s now} (looked : now ∈ s.looks) :
      Step s (.pop now (s.queue.pop now).2)
        { s with queue := (s.queue.pop now).1, looks := s.looks.erase now }

/-- The queue has a relation to what it knows of, and its duties lead from there to what is
stored. -/
def LeadsFrom (R : CollectionQueue L D → View L → Prop) (s : QueueShare L D) (w : View L) :
    Prop :=
  ∃ v, R s.queue v ∧ Leads v s.duties w

variable {R : CollectionQueue L D → View L → Prop} {s s' : QueueShare L D} {w w' : View L}

/-- A step does the next duty or none, and puts back what it takes. -/
theorem LeadsFrom.step (h : s.LeadsFrom R w) (kept : Kept R) {act : QueueAct L D}
    (step : s.Step act s') : s'.LeadsFrom R w := by
  obtain ⟨v, related, leads⟩ := h
  cases step with
  | drop next =>
      rw [next] at leads
      cases leads with
      | drop rest => exact ⟨_, kept.drop related _, rest⟩
  | enter next read =>
      rw [next] at leads
      cases leads with
      | enter absent rest => exact ⟨_, kept.enter related _ absent, rest⟩
  | read now next unread => exact ⟨v, related, leads⟩
  | look now => exact ⟨v, related, leads⟩
  | pop looked => exact ⟨v, kept.pop related _, leads⟩

omit [MeasurementKind D] in
theorem LeadsFrom.of_idle (h : s.LeadsFrom R w) (idle : s.duties = []) : R s.queue w := by
  obtain ⟨v, related, leads⟩ := h
  rw [idle] at leads
  rwa [← leads.eq_of_nil]

omit [MeasurementKind D] in
/-- A queue that has nothing left to do can be told of the next changes. -/
theorem LeadsFrom.tell (h : s.LeadsFrom R w) (idle : s.duties = [])
    {events : List (GraphEvent L)} (replays : Replays w events w') :
    (s.tell events).LeadsFrom R w' :=
  ⟨w, h.of_idle idle, replays.leads⟩

/-- The queue carries what it knows of, and its duties lead from there to what is stored. -/
def Follows (s : QueueShare L D) (w : View L) : Prop :=
  s.LeadsFrom Carries w

theorem follows_empty : ({} : QueueShare L D).Follows fun _ => none :=
  ⟨_, Carries.empty, .done⟩

/-- Each step keeps a queue on the way to what is stored. -/
theorem Follows.step (h : s.Follows w) {act : QueueAct L D} (step : s.Step act s') :
    s'.Follows w :=
  LeadsFrom.step h Carries.kept step

theorem Follows.tell (h : s.Follows w) (idle : s.duties = []) {events : List (GraphEvent L)}
    (replays : Replays w events w') : (s.tell events).Follows w' :=
  LeadsFrom.tell h idle replays

theorem Follows.mirrors {g : ResourceGraph L} (h : s.Follows g.get?) :
    s.queue.Mirrors g s.Heard := by
  obtain ⟨v, carries, leads⟩ := h
  exact carries.mirrors fun x hx => leads.eq_of_unmentioned hx

/-- A queue that is left alone with its duties follows the events at once. -/
theorem reaches_observe (now : UInt64) (events : List (GraphEvent L))
    (unread : s.reading = none) : Reaches Step (s.tell events)
      { s with queue := events.foldl (CollectionQueue.observe now) s.queue, duties := [] } := by
  induction events generalizing s with
  | nil => exact .refl _
  | cons e rest ih =>
      have drop : ∀ {t : QueueShare L D} {x duties}, t.duties = .drop x :: duties →
          Reaches Step t { t with queue := t.queue.unschedule [x], duties } := fun next =>
        .single (.drop next)
      have enter : ∀ {t : QueueShare L D} {r duties}, t.duties = .enter r :: duties →
          t.reading = none → Reaches Step t
            { t with
              queue := t.queue.schedule (QueueEntry.ofResource now r)
              duties
              reading := none } := by
        intro t r duties next unread
        have read : t.Step (.read now) { t with reading := some now } := .read now next unread
        exact (Reaches.single read).tail (.enter next rfl)
      have first : Reaches Step (s.tell (e :: rest))
          (({ s with queue := s.queue.observe now e } : QueueShare L D).tell rest) := by
        cases e with
        | added r =>
            have step := enter (t := s.tell (.added r :: rest)) rfl unread
            rw [← unread] at step
            exact step
        | modified r =>
            have step := enter
              (t := { s.tell (.modified r :: rest) with
                queue := s.queue.unschedule [r.id]
                duties := .enter r :: rest.flatMap GraphEvent.duties }) rfl unread
            rw [← unread] at step
            exact (drop rfl).trans step
        | removed r => exact drop rfl
      exact first.trans (ih unread)

end QueueShare

end EndpointMonitor
