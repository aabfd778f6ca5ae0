import EndpointMonitor.Proofs.Schedule.Mirroring

/-!
# How far apart collections are

A measurement that is put into a queue or taken from it waits for at least the gap that its
interval guarantees, counted from the clock reading of that act. At the top of the clock due
times saturate, and what is due at the last moment is never taken. As no reading is earlier than
one made before it, entries that are put in anew do not come sooner either.
-/

namespace EndpointMonitor

variable {L D : Type}

/-- What is due then is not taken at a reading before the given time. -/
def NotBefore (n : Nat) (due : UInt64) : Prop :=
  due = maxWord ∨ n ≤ due.toNat

namespace NotBefore

theorem mono {n k : Nat} {due : UInt64} (h : NotBefore n due) (hk : k ≤ n) : NotBefore k due :=
  h.imp_right fun hn => Nat.le_trans hk hn

/-- A due time that saturates is the last moment of the clock. -/
theorem nextDue (now interval : UInt64) :
    NotBefore (now.toNat + interval.toNat) (nextDue now interval) := by
  have hround := toNat_roundUpToSecond (satAdd now interval)
  have hsum := toNat_satAdd now interval
  rw [hsum] at hround
  have hmax : maxWord.toNat = 18446744073709551615 := rfl
  rw [NotBefore, EndpointMonitor.nextDue, ← UInt64.toNat_inj, hround, hmax]
  omega

theorem le_of_isDue {n : Nat} {now : UInt64} {k : QueueKey} (h : NotBefore n k.due)
    (hdue : CollectionQueue.isDue now k = true) : n ≤ now.toNat := by
  have hmax : maxWord.toNat = 18446744073709551615 := rfl
  simp only [CollectionQueue.isDue, decide_eq_true_eq, UInt64.lt_iff_toNat_lt, toNat_satAdd,
    UInt64.toNat_one] at hdue
  rcases h with heq | hle
  · rw [heq, hmax] at hdue
    omega
  · omega

end NotBefore

namespace QueueAct

/-- The act takes the measurement at a reading of the clock. -/
def Takes (a : QueueAct L D) (t : UInt64) (id : MeasurementKey) : Prop :=
  ∃ es, a = .pop t es ∧ ∃ e ∈ es, e.id = id

/-- The act puts in the resource of the measurement at a reading of the clock. -/
def Enters (a : QueueAct L D) (t : UInt64) (id : MeasurementKey) : Prop :=
  ∃ r, a = .enter t r ∧ r.id = id.resource

/-- The second act takes no measurement sooner than a gap after the first took it or put it in. -/
def Spaced (gap : Nat) (a b : QueueAct L D) : Prop :=
  ∀ t t' id, a.Takes t id ∨ a.Enters t id → b.Takes t' id → t.toNat + gap ≤ t'.toNat

/-- The reading of the clock that an act makes. -/
def reading? : QueueAct L D → Option UInt64
  | .read now => some now
  | .look now => some now
  | .drop _ => none
  | .enter _ _ => none
  | .pop _ _ => none

/-- The readings of the clock, in the order in which they are made. -/
def readings (acts : List (QueueAct L D)) : List UInt64 :=
  acts.filterMap reading?

/-- One of some acts took the measurement or put it in at a reading of the clock. -/
def Started (acts : List (QueueAct L D)) (t : UInt64) (id : MeasurementKey) : Prop :=
  ∃ a ∈ acts, a.Takes t id ∨ a.Enters t id

variable {acts : List (QueueAct L D)} {a : QueueAct L D} {t : UInt64} {id : MeasurementKey}

theorem started_concat_iff :
    Started (acts ++ [a]) t id ↔ Started acts t id ∨ a.Takes t id ∨ a.Enters t id := by
  simp [Started, or_and_right, exists_or]

theorem mem_readings_concat (h : t ∈ readings acts) : t ∈ readings (acts ++ [a]) := by
  rw [readings, List.filterMap_append]
  exact List.mem_append_left _ h

/-- Acts stay spaced if the next one takes nothing too soon after any of them. -/
theorem pairwise_spaced_concat {gap : Nat} (h : acts.Pairwise (Spaced gap))
    (hnext : ∀ t t' id, Started acts t id → a.Takes t' id → t.toNat + gap ≤ t'.toNat) :
    (acts ++ [a]).Pairwise (Spaced gap) := by
  refine List.pairwise_append.2 ⟨h, List.pairwise_singleton _ _, fun b hb c hc => ?_⟩
  rw [List.mem_singleton.1 hc]
  exact fun t t' id hstart => hnext t t' id ⟨b, hb, hstart⟩

end QueueAct

variable [MeasurementKind D]

/-- The measurements of a resource have intervals no shorter than a gap. -/
def Resource.Slow (D : Type) [MeasurementKind D] (gap : Nat) (r : Resource L) : Prop :=
  ∀ m ∈ MeasurementKind.instances (D := D) r, gap ≤ m.intervalMillis.toNat

namespace QueueShare

open CollectionQueue QueueAct

/-- After some acts the queue has spaced all collections, and lets every measurement wait. -/
structure Paced (gap : Nat) (acts : List (QueueAct L D)) (s : QueueShare L D) : Prop where
  spaced : acts.Pairwise (Spaced gap)
  started_read : ∀ {t id}, Started acts t id → t ∈ readings acts
  looks_read : ∀ {t}, t ∈ s.looks → t ∈ readings acts
  waits : ∀ {t e}, e ∈ s.queue.toList → Started acts t e.id → NotBefore (t.toNat + gap) e.due
  /-- Nothing happened to a resource after the clock was read for its entries. -/
  pending : ∀ {now}, s.reading = some now → now ∈ readings acts ∧
    ∃ r rest, s.duties = .enter r :: rest ∧
      ∀ t id, Started acts t id → id.resource = r.id → t ≤ now
  slow_entries : ∀ {e}, e ∈ s.queue.toList → gap ≤ e.measurement.intervalMillis.toNat
  slow_duties : ∀ {r}, .enter r ∈ s.duties → r.Slow D gap

variable {gap : Nat} {acts : List (QueueAct L D)} {s s' : QueueShare L D} {w : View L}

theorem paced_empty : Paced gap [] ({} : QueueShare L D) where
  spaced := .nil
  started_read h := by simp [Started] at h
  looks_read h := by simp at h
  waits h := by simp [toList] at h
  pending h := by simp at h
  slow_entries h := by simp [toList] at h
  slow_duties h := by simp at h

/-- A queue that has nothing left to do can be told of resources with long intervals. -/
theorem Paced.tell (h : Paced gap acts s) (idle : s.duties = []) {events : List (GraphEvent L)}
    (slow : ∀ r, .enter r ∈ events.flatMap GraphEvent.duties → r.Slow D gap) :
    Paced gap acts (s.tell events) where
  spaced := h.spaced
  started_read := h.started_read
  looks_read := h.looks_read
  waits := h.waits
  pending hnow := by
    obtain ⟨-, r, rest, hduties, -⟩ := h.pending hnow
    rw [idle] at hduties
    cases hduties
  slow_entries := h.slow_entries
  slow_duties hr := slow _ hr

namespace Paced

variable {act : QueueAct L D}

/-- An act that neither takes nor puts in anything. -/
theorem of_quiet (h : Paced gap acts s)
    (quiet : ∀ t id, ¬ (act.Takes t id ∨ act.Enters t id))
    (entries : ∀ e ∈ s'.queue.toList, e ∈ s.queue.toList)
    (looks : ∀ t ∈ s'.looks, t ∈ readings (acts ++ [act]))
    (duties : ∀ d ∈ s'.duties, d ∈ s.duties)
    (pending : ∀ now, s'.reading = some now → now ∈ readings (acts ++ [act]) ∧
      ∃ r rest, s'.duties = .enter r :: rest ∧
        ∀ t id, Started acts t id → id.resource = r.id → t ≤ now) :
    Paced gap (acts ++ [act]) s' := by
  have before : ∀ {t id}, Started (acts ++ [act]) t id → Started acts t id := fun hstart =>
    (started_concat_iff.1 hstart).resolve_right (quiet _ _)
  refine ⟨?_, ?_, fun ht => looks _ ht, ?_, ?_, ?_, ?_⟩
  · exact pairwise_spaced_concat h.spaced fun t t' id _ htakes =>
      absurd (Or.inl htakes) (quiet t' id)
  · exact fun hstart => mem_readings_concat (h.started_read (before hstart))
  · exact fun he hstart => h.waits (entries _ he) (before hstart)
  · intro now hnow
    obtain ⟨hread, r, rest, hduties, hlast⟩ := pending now hnow
    exact ⟨hread, r, rest, hduties, fun t id hstart => hlast t id (before hstart)⟩
  · exact fun he => h.slow_entries (entries _ he)
  · exact fun hr => h.slow_duties (duties _ hr)

theorem drop (h : Paced gap acts s) (follows : s.Follows w) {x : String}
    {rest : List (QueueDuty L)} (next : s.duties = .drop x :: rest) :
    Paced gap (acts ++ [.drop x])
      { s with queue := s.queue.unschedule [x], duties := rest } := by
  obtain ⟨v, carries, -⟩ := follows
  refine h.of_quiet (by simp [Takes, Enters]) (fun e he => ?_) (fun t ht => ?_) (fun d hd => ?_)
    fun now hnow => ?_
  · exact ((carries.inStep.mem_unschedule [x] e).1 he).1
  · exact mem_readings_concat (h.looks_read ht)
  · rw [next]
    exact List.mem_cons_of_mem _ hd
  · obtain ⟨-, r, rest', hduties, -⟩ := h.pending hnow
    rw [next] at hduties
    cases hduties

/-- What happened before the clock is read happened at readings that are no later. -/
theorem read (h : Paced gap acts s) {now : UInt64} {r : Resource L} {rest : List (QueueDuty L)}
    (next : s.duties = .enter r :: rest)
    (clock : (readings (acts ++ [.read now] : List (QueueAct L D))).Pairwise (· ≤ ·)) :
    Paced gap (acts ++ [.read now]) { s with reading := some now } := by
  have last : ∀ t ∈ readings acts, t ≤ now := by
    intro t ht
    rw [readings, List.filterMap_append] at clock
    exact (List.pairwise_append.1 clock).2.2 t ht now (by simp [reading?])
  refine h.of_quiet (by simp [Takes, Enters]) (fun _ he => he) (fun t ht => ?_) (fun _ hd => hd)
    fun now' hnow => ?_
  · exact mem_readings_concat (h.looks_read ht)
  · cases hnow
    refine ⟨by simp [readings, reading?], r, rest, next, fun t id hstart _ => ?_⟩
    exact last t (h.started_read hstart)

theorem look (h : Paced gap acts s) (now : UInt64) :
    Paced gap (acts ++ [.look now]) { s with looks := now :: s.looks } := by
  refine h.of_quiet (by simp [Takes, Enters]) (fun _ he => he) (fun t ht => ?_) (fun _ hd => hd)
    fun now' hnow => ?_
  · rcases List.mem_cons.1 ht with rfl | ht
    · simp [readings, reading?]
    · exact mem_readings_concat (h.looks_read ht)
  · obtain ⟨hread, rest⟩ := h.pending hnow
    exact ⟨mem_readings_concat hread, rest⟩

/-- New entries wait from their reading on, which is no earlier than what happened to their
resource before. -/
theorem enter (h : Paced gap acts s) (follows : s.Follows w) {now : UInt64} {r : Resource L}
    {rest : List (QueueDuty L)} (next : s.duties = .enter r :: rest)
    (hread : s.reading = some now) :
    Paced gap (acts ++ [.enter now r])
      { s with
        queue := s.queue.schedule (QueueEntry.ofResource now r)
        duties := rest
        reading := none } := by
  obtain ⟨v, carries, leads⟩ := follows
  have absent : v r.id = none := by
    rw [next] at leads
    cases leads with
    | enter absent _ => exact absent
  have slow : r.Slow D gap := h.slow_duties (next ▸ List.mem_cons_self)
  obtain ⟨hnow, r', rest', hduties, hlast⟩ := h.pending hread
  rw [next] at hduties
  cases hduties
  have started : ∀ {t id}, Started (acts ++ [.enter now r]) t id →
      Started acts t id ∨ t = now ∧ id.resource = r.id := by
    intro t id hstart
    refine (started_concat_iff.1 hstart).imp_right ?_
    rintro (⟨es, ⟨⟩, -⟩ | ⟨s, ⟨⟩, hid⟩)
    exact ⟨rfl, hid.symm⟩
  refine ⟨?_, ?_, ?_, ?_, ?_, ?_, ?_⟩
  · refine pairwise_spaced_concat h.spaced fun t t' id _ htakes => ?_
    obtain ⟨es, ⟨⟩, -⟩ := htakes
  · intro t id hstart
    rcases started hstart with hold | ⟨rfl, -⟩
    · exact mem_readings_concat (h.started_read hold)
    · exact mem_readings_concat hnow
  · exact fun ht => mem_readings_concat (h.looks_read ht)
  · intro t e he hstart
    rcases carries.inStep.mem_enter_cases he with hnew | hold
    · obtain ⟨m, hm, rfl⟩ := mem_ofResource_iff.1 hnew
      have hle : t.toNat ≤ now.toNat := by
        rcases started hstart with hstart | ⟨rfl, -⟩
        · exact UInt64.le_iff_toNat_le.1 (hlast t _ hstart rfl)
        · exact Nat.le_refl _
      exact (NotBefore.nextDue now m.intervalMillis).mono (Nat.add_le_add hle (slow m hm))
    · rcases started hstart with hstart | ⟨-, hid⟩
      · exact h.waits hold hstart
      · have hknown := (carries.known hold).1
        have hid : e.resource.id = r.id := hid
        rw [hid, absent] at hknown
        cases hknown
  · intro now' hnone
    cases hnone
  · intro e he
    rcases carries.inStep.mem_enter_cases he with hnew | hold
    · obtain ⟨m, hm, rfl⟩ := mem_ofResource_iff.1 hnew
      exact slow m hm
    · exact h.slow_entries hold
  · exact fun hr => h.slow_duties (next ▸ List.mem_cons_of_mem _ hr)

/-- What is taken has waited long enough, and waits again from the reading on. -/
theorem pop (h : Paced gap acts s) (follows : s.Follows w) {now : UInt64}
    (looked : now ∈ s.looks) :
    Paced gap (acts ++ [.pop now (s.queue.pop now).2])
      { s with queue := (s.queue.pop now).1, looks := s.looks.erase now } := by
  obtain ⟨v, carries, leads⟩ := follows
  have inStep := carries.inStep
  have waited : ∀ {t e}, e ∈ s.queue.dueEntries now → Started acts t e.id →
      t.toNat + gap ≤ now.toNat := by
    intro t e he hstart
    obtain ⟨hmem, hdue⟩ := inStep.mem_of_mem_dueEntries he
    exact (h.waits hmem hstart).le_of_isDue hdue
  have started : ∀ {t id}, Started (acts ++ [.pop now (s.queue.pop now).2]) t id →
      Started acts t id ∨ t = now ∧ ∃ e ∈ s.queue.dueEntries now, e.id = id := by
    intro t id hstart
    refine (started_concat_iff.1 hstart).imp_right ?_
    rintro (⟨es, ⟨⟩, htaken⟩ | ⟨r, ⟨⟩, -⟩)
    exact ⟨rfl, htaken⟩
  refine ⟨?_, ?_, ?_, ?_, ?_, ?_, ?_⟩
  · refine pairwise_spaced_concat h.spaced fun t t' id hstart htakes => ?_
    obtain ⟨es, ⟨⟩, e, he, rfl⟩ := htakes
    exact waited he hstart
  · intro t id hstart
    rcases started hstart with hold | ⟨rfl, -⟩
    · exact mem_readings_concat (h.started_read hold)
    · exact mem_readings_concat (h.looks_read looked)
  · exact fun ht => mem_readings_concat (h.looks_read (List.mem_of_mem_erase ht))
  · intro t f hf hstart
    rcases ((inStep.pop now).2 f).1 hf with ⟨e, he, rfl⟩ | ⟨hf, hdue⟩
    · have hslow := h.slow_entries (inStep.mem_of_mem_dueEntries he).1
      have hle : t.toNat ≤ now.toNat := by
        rcases started hstart with hold | ⟨rfl, -⟩
        · exact Nat.le_trans (Nat.le_add_right _ gap) (waited he hold)
        · exact Nat.le_refl _
      exact (NotBefore.nextDue now e.measurement.intervalMillis).mono
        (Nat.add_le_add hle hslow)
    · rcases started hstart with hold | ⟨-, e, he, hid⟩
      · exact h.waits hf hold
      · obtain ⟨hmem, hdue'⟩ := inStep.mem_of_mem_dueEntries he
        rw [inStep.eq_of_id_eq hmem hf hid, hdue] at hdue'
        cases hdue'
  · intro now' hnow
    obtain ⟨hread, r, rest, hduties, hlast⟩ := h.pending hnow
    refine ⟨mem_readings_concat hread, r, rest, hduties, fun t id hstart hid => ?_⟩
    rcases started hstart with hold | ⟨-, e, he, rfl⟩
    · exact hlast t id hold hid
    · -- The resource is not in the queue while it waits to be put in.
      have hknown := (carries.known (inStep.mem_of_mem_dueEntries he).1).1
      have hid : e.resource.id = r.id := hid
      rw [hduties] at leads
      cases leads with
      | enter absent _ =>
          rw [hid, absent] at hknown
          cases hknown
  · intro f hf
    rcases ((inStep.pop now).2 f).1 hf with ⟨e, he, rfl⟩ | ⟨hf, -⟩
    · have hslow := h.slow_entries (inStep.mem_of_mem_dueEntries he).1
      exact hslow
    · exact h.slow_entries hf
  · exact fun hr => h.slow_duties hr

/-- With a clock that never goes back every step spaces the collections. -/
theorem step (h : Paced gap acts s) (follows : s.Follows w) (step : s.Step act s')
    (clock : (readings (acts ++ [act])).Pairwise (· ≤ ·)) : Paced gap (acts ++ [act]) s' := by
  cases step with
  | drop next => exact h.drop follows next
  | read now next unread => exact h.read next clock
  | enter next hread => exact h.enter follows next hread
  | look now => exact h.look now
  | pop looked => exact h.pop follows looked

end Paced

end QueueShare

end EndpointMonitor
