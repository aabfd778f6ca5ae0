import EndpointMonitor.Proofs.Schedule.Agenda
import EndpointMonitor.Schedule.CollectionLoop

/-!
# Iterations of a collection loop

A loop looks at its queue, sleeps unless something is due, and takes what is due then. It reads
the clock once for the look and once more to take. After an iteration nothing in the queue is due
at the reading at which it took. So an iteration that follows sleeps unless the clock has moved
on, and one that does not sleep has something to take.
-/

namespace EndpointMonitor

variable {L D : Type}

/-- The nanoseconds in a millisecond. -/
def nanosPerMilli : Nat := 1000000

/-- An iteration of a loop that nothing wakes or ends. -/
structure Iteration (L D : Type) where
  /-- The queue that the loop looks at, and that nobody else changes before it has taken. -/
  before : CollectionQueue L D
  /-- The reading of the clock for the look. -/
  looked : UInt64
  /-- How long the loop sleeps, in nanoseconds. -/
  slept : Nat
  /-- The reading of the clock at which the loop takes. -/
  took : UInt64
  batch : List (QueueEntry L D)
  after : CollectionQueue L D

/-- The readings of the clock in the order in which iterations make them. -/
def clockReadings (readings : List (UInt64 × UInt64)) : List UInt64 :=
  readings.flatMap fun t => [t.1, t.2]

theorem lt_nextDue {now interval : UInt64} (hnow : now < maxWord) (hinterval : 1 ≤ interval) :
    now < nextDue now interval := by
  have hmax : maxWord.toNat = 18446744073709551615 := rfl
  have hsum := toNat_satAdd now interval
  have hround := le_roundUpToSecond (satAdd now interval)
  rw [UInt64.lt_iff_toNat_lt] at hnow ⊢
  rw [UInt64.le_iff_toNat_le, UInt64.toNat_one] at hinterval
  rw [nextDue]
  omega

namespace CollectionQueue

variable {q : CollectionQueue L D} {poll : Nat} {now : UInt64}

/-- How long a loop sleeps when it looks at the queue, in nanoseconds: until the first entry is
due, but no longer than its limit. -/
def waitNanos (poll : Nat) (now : UInt64) (q : CollectionQueue L D) : Nat :=
  match q.nextDue? with
  | none => poll
  | some due => min ((satSub due now).toNat * nanosPerMilli) poll

/-- With a limit of whole milliseconds the sleep has whole milliseconds too. -/
theorem waitNanos_millis (millis now : UInt64) (q : CollectionQueue L D) :
    q.waitNanos (millis.toNat * nanosPerMilli) now =
      (q.waitMillis millis now).toNat * nanosPerMilli := by
  unfold waitNanos waitMillis
  cases q.nextDue? with
  | none => rfl
  | some due =>
      simp only [Std.min_eq_if, UInt64.le_iff_toNat_le, nanosPerMilli]
      split <;> split <;> omega

/-- An iteration with the two readings of the clock that it makes. -/
def iterate (poll : Nat) (q : CollectionQueue L D) (looked took : UInt64) : Iteration L D :=
  let turn := LoopPhase.collect took q
  ⟨q, looked, q.waitNanos poll looked, took, turn.batch, turn.queue⟩

/-- Iterations one after the other. -/
def iterations (poll : Nat) (q : CollectionQueue L D) :
    List (UInt64 × UInt64) → List (Iteration L D)
  | [] => []
  | (looked, took) :: rest =>
    let i := q.iterate poll looked took
    i :: i.after.iterations poll rest

/-- No measurement is collected more often than every millisecond. -/
def Slow (q : CollectionQueue L D) : Prop :=
  ∀ e ∈ q.toList, 1 ≤ e.measurement.intervalMillis

section Waiting

theorem InStep.due_le_of_nextDue? (h : InStep [] q) {due : UInt64} (hdue : q.nextDue? = some due)
    {e : QueueEntry L D} (he : e ∈ q.toList) : due ≤ e.due := by
  have sorted := h.pairwise_toList
  rw [nextDue?_eq_head? h] at hdue
  cases hlist : q.toList with
  | nil => simp [hlist] at he
  | cons first rest =>
      rw [hlist] at hdue he sorted
      cases hdue
      rcases List.mem_cons.1 he with rfl | he
      · exact UInt64.le_refl _
      · have hlt := (List.pairwise_cons.1 sorted).1 e he
        rw [compare_key, Ordering.then_eq_lt, Std.compare_eq_lt,
          Std.LawfulEqOrd.compare_eq_iff_eq] at hlt
        rcases hlt with hlt | ⟨heq, -⟩
        · exact UInt64.le_of_lt hlt
        · exact UInt64.le_of_eq heq

theorem InStep.exists_mem_of_nextDue? (h : InStep [] q) {due : UInt64}
    (hdue : q.nextDue? = some due) : ∃ e ∈ q.toList, e.due = due := by
  rw [nextDue?_eq_head? h, Option.map_eq_some_iff] at hdue
  obtain ⟨e, he, heq⟩ := hdue
  exact ⟨e, List.mem_of_head? he, heq⟩

theorem waitNanos_le (poll : Nat) (now : UInt64) (q : CollectionQueue L D) :
    q.waitNanos poll now ≤ poll := by
  unfold waitNanos
  split
  · exact Nat.le_refl _
  · exact Nat.min_le_right _ _

/-- A loop that sleeps goes on before anything is due, or just when it is. -/
theorem InStep.waitNanos_le_due (h : InStep [] q) (hwait : 0 < q.waitNanos poll now)
    {e : QueueEntry L D} (he : e ∈ q.toList) :
    now.toNat * nanosPerMilli + q.waitNanos poll now ≤ e.due.toNat * nanosPerMilli := by
  unfold waitNanos at hwait ⊢
  cases hdue : q.nextDue? with
  | none =>
      rw [nextDue?_eq_head? h, Option.map_eq_none_iff, List.head?_eq_none_iff] at hdue
      simp [hdue] at he
  | some due =>
      have hle := UInt64.le_iff_toNat_le.1 (h.due_le_of_nextDue? hdue he)
      rw [hdue] at hwait
      simp only [toNat_satSub, nanosPerMilli] at hwait ⊢
      omega

/-- A loop does not sleep exactly if something is due. -/
theorem InStep.waitNanos_eq_zero_iff (h : InStep [] q) (hpoll : 0 < poll) :
    q.waitNanos poll now = 0 ↔ ∃ e ∈ q.toList, e.due ≤ now := by
  constructor
  · intro hwait
    unfold waitNanos at hwait
    cases hdue : q.nextDue? with
    | none =>
        rw [hdue] at hwait
        exact absurd hwait (Nat.ne_of_gt hpoll)
    | some due =>
        obtain ⟨e, he, rfl⟩ := h.exists_mem_of_nextDue? hdue
        refine ⟨e, he, UInt64.le_iff_toNat_le.2 ?_⟩
        rw [hdue] at hwait
        simp only [toNat_satSub, nanosPerMilli] at hwait
        omega
  · rintro ⟨e, he, hle⟩
    rw [UInt64.le_iff_toNat_le] at hle
    by_contra hwait
    have hdue := h.waitNanos_le_due (Nat.pos_of_ne_zero hwait) he
    have hmillis := Nat.mul_le_mul_right nanosPerMilli hle
    omega

end Waiting

section Taking

/-- What is taken, and all that is not, waits for a later time than the reading. -/
theorem InStep.lt_due_of_mem_pop (h : InStep [] q) (slow : q.Slow) (hnow : now < maxWord)
    {f : QueueEntry L D} (hf : f ∈ (q.pop now).1.toList) : now < f.due := by
  rcases ((h.pop now).2 f).1 hf with ⟨e, he, rfl⟩ | ⟨-, hdue⟩
  · exact lt_nextDue hnow (slow e ((mem_dueEntries h hnow e).1 he).1)
  · rw [← Bool.not_eq_true, isDue_iff hnow] at hdue
    exact UInt64.not_le.1 hdue

theorem InStep.slow_pop (h : InStep [] q) (slow : q.Slow) (hnow : now < maxWord) :
    (q.pop now).1.Slow := by
  intro f hf
  rcases ((h.pop now).2 f).1 hf with ⟨e, he, rfl⟩ | ⟨hf, -⟩
  · have hslow := slow e ((mem_dueEntries h hnow e).1 he).1
    exact hslow
  · exact slow f hf

theorem inStep_call (h : InStep [] q) (c : QueueCall L D) : InStep [] (q.call c).1 := by
  cases c with
  | schedule es => exact h.schedule es
  | unschedule resources => exact h.unschedule resources
  | clear => exact inStep_clear q
  | size | nextDue => exact h
  | pop now => exact (h.pop now).1

/-- The indexes agree whatever calls are made, and whenever. -/
theorem inStep_callAll (h : InStep [] q) (calls : List (QueueCall L D)) :
    InStep [] (q.callAll calls).1 := by
  induction calls generalizing q with
  | nil => exact h
  | cons c rest ih => exact ih (inStep_call h c)

end Taking

end CollectionQueue

/-- What comes of an iteration of a loop that never sleeps longer than its limit. -/
structure Iteration.GetsOn (poll : Nat) (i : Iteration L D) : Prop where
  /-- It sleeps, within its limit and before anything is due, or it takes something at once. -/
  sleeps_or_takes :
    (0 < i.slept ∧ i.slept ≤ poll ∧ ∀ e ∈ i.before.toList,
      i.looked.toNat * nanosPerMilli + i.slept ≤ e.due.toNat * nanosPerMilli) ∨
    i.slept = 0 ∧ i.batch ≠ []
  /-- What it takes is in the queue again, for a later time. -/
  renewed : ∀ e ∈ i.batch, ∃ due, i.took < due ∧ { e with due } ∈ i.after.toList
  /-- The loop looks and takes just so, if its limit is one of whole milliseconds. -/
  steps : ∀ millis : UInt64, poll = millis.toNat * nanosPerMilli → ∀ elapsed,
    LoopPhase.look millis i.looked elapsed i.before =
        (if i.slept = 0 then LoopPhase.collect i.looked i.before
        else ⟨.sleeping (elapsed + i.slept / nanosPerMilli), { i.before with woken := false }, []⟩) ∧
      LoopPhase.collect i.took i.before = ⟨.looking, i.after, i.batch⟩

namespace CollectionQueue

variable {q : CollectionQueue L D} {poll : Nat} {looked took : UInt64}

/-- A loop with a limit of whole milliseconds takes at once or goes to sleep just so. -/
theorem look_eq (millis looked : UInt64) (elapsed : Nat) (q : CollectionQueue L D) :
    LoopPhase.look millis looked elapsed q =
      if q.waitNanos (millis.toNat * nanosPerMilli) looked = 0 then LoopPhase.collect looked q
      else ⟨.sleeping
        (elapsed + q.waitNanos (millis.toNat * nanosPerMilli) looked / nanosPerMilli),
        { q with woken := false }, []⟩ := by
  have hnanos : 0 < nanosPerMilli := by decide
  have hzero : (q.waitMillis millis looked).toNat * nanosPerMilli = 0 ↔
      q.waitMillis millis looked = 0 := by
    rw [Nat.mul_eq_zero, or_iff_left (Nat.ne_of_gt hnanos), ← UInt64.toNat_inj, UInt64.toNat_zero]
  rw [waitNanos_millis, Nat.mul_div_cancel _ hnanos, LoopPhase.look]
  simp only [hzero]

/-- An iteration gets on if the clock is not read backwards. -/
theorem InStep.getsOn (h : InStep [] q) (slow : q.Slow) (hpoll : 0 < poll)
    (hle : looked ≤ took) (htook : took < maxWord) : (q.iterate poll looked took).GetsOn poll where
  sleeps_or_takes := by
    by_cases hwait : q.waitNanos poll looked = 0
    · obtain ⟨e, he, hdue⟩ := (h.waitNanos_eq_zero_iff hpoll).1 hwait
      have taken : e ∈ q.dueEntries took :=
        (mem_dueEntries h htook e).2 ⟨he, UInt64.le_trans hdue hle⟩
      exact .inr ⟨hwait, List.ne_nil_of_mem taken⟩
    · have hpos := Nat.pos_of_ne_zero hwait
      exact .inl ⟨hpos, waitNanos_le poll looked q, fun _ he => h.waitNanos_le_due hpos he⟩
  renewed e he := by
    have again : e.again took ∈ (q.pop took).1.toList := ((h.pop took).2 _).2 (.inl ⟨e, he, rfl⟩)
    exact ⟨_, h.lt_due_of_mem_pop slow htook again, again⟩
  steps millis hmillis elapsed := by
    subst hmillis
    exact ⟨look_eq millis looked elapsed q, rfl⟩

section Runs

variable {readings : List (UInt64 × UInt64)} {t : UInt64}

theorem forall_clockReadings_cons {p : UInt64 → Prop} :
    (∀ s ∈ clockReadings ((looked, took) :: readings), p s) ↔
      p looked ∧ p took ∧ ∀ s ∈ clockReadings readings, p s := by
  simp [clockReadings]

theorem pairwise_clockReadings_cons :
    (clockReadings ((looked, took) :: readings)).Pairwise (· ≤ ·) ↔
      looked ≤ took ∧ (∀ s ∈ clockReadings readings, looked ≤ s ∧ took ≤ s) ∧
        (clockReadings readings).Pairwise (· ≤ ·) := by
  simp only [clockReadings, List.flatMap_cons, List.cons_append, List.nil_append,
    List.pairwise_cons, List.forall_mem_cons, forall_and]
  tauto

/-- While nothing is due at a time, an iteration that does not sleep looks after that time. -/
theorem InStep.lt_looked (h : InStep [] q) (slow : q.Slow) (hpoll : 0 < poll)
    (waiting : ∀ e ∈ q.toList, t < e.due) (later : ∀ s ∈ clockReadings readings, t ≤ s)
    (early : ∀ s ∈ clockReadings readings, s < maxWord) :
    ∀ j ∈ q.iterations poll readings, j.slept = 0 → t < j.looked := by
  induction readings generalizing q with
  | nil => simp [iterations]
  | cons r rest ih =>
      obtain ⟨looked, took⟩ := r
      obtain ⟨-, htook, hlater⟩ := forall_clockReadings_cons.1 later
      obtain ⟨-, hmax, hearly⟩ := forall_clockReadings_cons.1 early
      refine List.forall_mem_cons.2 ⟨fun hslept => ?_, ?_⟩
      · obtain ⟨e, he, hdue⟩ := (h.waitNanos_eq_zero_iff hpoll).1 hslept
        exact UInt64.lt_of_lt_of_le (waiting e he) hdue
      · refine ih (h.pop took).1 (h.slow_pop slow hmax) (fun f hf => ?_) hlater hearly
        exact UInt64.lt_of_le_of_lt htook (h.lt_due_of_mem_pop slow hmax hf)

/-- Every iteration of a run gets on, and one that does not sleep looks later than any before
it took. -/
theorem InStep.iterations_getOn (h : InStep [] q) (slow : q.Slow) (hpoll : 0 < poll)
    (forward : (clockReadings readings).Pairwise (· ≤ ·))
    (early : ∀ s ∈ clockReadings readings, s < maxWord) :
    (∀ i ∈ q.iterations poll readings, i.GetsOn poll) ∧
      (q.iterations poll readings).Pairwise fun i j => j.slept = 0 → i.took < j.looked := by
  induction readings generalizing q with
  | nil => simp [iterations]
  | cons r rest ih =>
      obtain ⟨looked, took⟩ := r
      obtain ⟨hle, hlater, hforward⟩ := pairwise_clockReadings_cons.1 forward
      obtain ⟨-, hmax, hearly⟩ := forall_clockReadings_cons.1 early
      have inStep := (h.pop took).1
      have slow' := h.slow_pop slow hmax
      obtain ⟨geton, apart⟩ := ih inStep slow' hforward hearly
      refine ⟨List.forall_mem_cons.2 ⟨h.getsOn slow hpoll hle hmax, geton⟩,
        List.pairwise_cons.2 ⟨?_, apart⟩⟩
      exact inStep.lt_looked slow' hpoll (fun f hf => h.lt_due_of_mem_pop slow hmax hf)
        (fun s hs => (hlater s hs).2) hearly

/-- Whatever calls have led to a queue of measurements that are collected no more often than every
millisecond, whatever the limit of the loop, and whatever a clock shows that never goes back and
does not come to its last moment: every iteration that nobody wakes sleeps, but not past its
limit or the first due time, or takes something at once, and what it takes waits for a later
time. So an iteration that does not sleep looks at a later time than any before it took. -/
theorem loop_neverSpins (calls : List (QueueCall L D))
    (slow : ∀ e ∈ (({} : CollectionQueue L D).callAll calls).1.toList,
      1 ≤ e.measurement.intervalMillis)
    {poll : Nat} (hpoll : 0 < poll) {readings : List (UInt64 × UInt64)}
    (forward : (clockReadings readings).Pairwise (· ≤ ·))
    (early : ∀ s ∈ clockReadings readings, s < maxWord) :
    let run := (({} : CollectionQueue L D).callAll calls).1.iterations poll readings
    (∀ i ∈ run, i.GetsOn poll) ∧ run.Pairwise fun i j => j.slept = 0 → i.took < j.looked :=
  (inStep_callAll inStep_empty calls).iterations_getOn slow hpoll forward early

/-- A limit of one and a half milliseconds, and a measurement that is due at the first look. -/
theorem loop_neverSpins_twoMeasurements :
    let calls : List (QueueCall Unit Unit) :=
      [.schedule [everySecond "a" "m" 1000, everySecond "b" "m" 2000]]
    let readings : List (UInt64 × UInt64) := [(1000, 1000), (1000, 1999), (2000, 2001)]
    let run := (({} : CollectionQueue Unit Unit).callAll calls).1.iterations 1500000 readings
    (∀ e ∈ (({} : CollectionQueue Unit Unit).callAll calls).1.toList,
        1 ≤ e.measurement.intervalMillis) ∧
      (clockReadings readings).Pairwise (· ≤ ·) ∧ (∀ s ∈ clockReadings readings, s < maxWord) ∧
      run.map (·.batch.length) = [1, 0, 2] ∧
      (∀ i ∈ run, i.GetsOn 1500000) ∧ run.Pairwise fun i j => j.slept = 0 → i.took < j.looked := by
  intro calls readings run
  have slow : ∀ e ∈ (({} : CollectionQueue Unit Unit).callAll calls).1.toList,
      1 ≤ e.measurement.intervalMillis := by
    decide +kernel
  have forward : (clockReadings readings).Pairwise (· ≤ ·) := by decide
  have early : ∀ s ∈ clockReadings readings, s < maxWord := by
    simp [readings, clockReadings, maxWord]
  exact ⟨slow, forward, early, by decide +kernel,
    loop_neverSpins calls slow (by decide) forward early⟩

end Runs

end CollectionQueue

end EndpointMonitor
