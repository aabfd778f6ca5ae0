import EndpointMonitor.Proofs.Schedule.QueueIndexes
import Mathlib.Data.String.Basic

/-!
# The queue as a plain map

An agenda keeps one entry for each measurement and nothing else. It has no order, so it sorts
what is due whenever it is asked. Every run of calls gets the same answers from the queue with
its two indexes as from the agenda.
-/

namespace EndpointMonitor

variable {L D : Type}

/-- A call of the collection queue. A call that takes what is due reads the clock. -/
inductive QueueCall (L D : Type) where
  | schedule (entries : List (QueueEntry L D))
  | unschedule (resources : List String)
  | clear
  | size
  | nextDue
  | pop (now : UInt64)

/-- What a caller of the queue is told. -/
inductive QueueAnswer (L D : Type) where
  | done
  | size (number : Nat)
  | nextDue (due : Option UInt64)
  | popped (entries : List (QueueEntry L D))

/-- One entry for each measurement. -/
abbrev Agenda (L D : Type) := Std.TreeMap MeasurementKey (QueueEntry L D)

namespace Agenda

/-- The entry with the due time of a collection at the given time: one interval later, rounded
up to a full second, and never past the last moment of the clock. -/
def postpone (now : UInt64) (e : QueueEntry L D) : QueueEntry L D :=
  let later := min (now.toNat + e.measurement.intervalMillis.toNat) (2 ^ 64 - 1)
  { e with due := UInt64.ofNat (min ((later + 999) / 1000 * 1000) (2 ^ 64 - 1)) }

/-- The order in which entries that are due are taken. -/
def notAfter (e f : QueueEntry L D) : Bool :=
  decide (e.due < f.due ∨ e.due = f.due ∧ (e.resource.id < f.resource.id ∨
    e.resource.id = f.resource.id ∧ e.measurement.id ≤ f.measurement.id))

/-- The entries, in no particular order. -/
def entries (a : Agenda L D) : List (QueueEntry L D) :=
  a.toList.map (·.2)

/-- The entries that are due, in order. -/
def dueEntries (a : Agenda L D) (now : UInt64) : List (QueueEntry L D) :=
  (a.entries.filter fun e => e.due ≤ now).mergeSort notAfter

/-- What becomes of an agenda, and what the caller is told. -/
def call (a : Agenda L D) : QueueCall L D → Agenda L D × QueueAnswer L D
  | .schedule es => (es.foldl (fun a e => a.insert e.id e) a, .done)
  | .unschedule resources => (a.filter fun id _ => !resources.contains id.resource, .done)
  | .clear => (∅, .done)
  | .size => (a, .size a.size)
  | .nextDue => (a, .nextDue (a.entries.map (·.due)).min?)
  | .pop now =>
    (a.map fun _ e => if e.due ≤ now then postpone now e else e, .popped (a.dueEntries now))

/-- The answers to calls one after the other. -/
def callAll (a : Agenda L D) : List (QueueCall L D) → Agenda L D × List (QueueAnswer L D)
  | [] => (a, [])
  | c :: rest =>
    let (a, answer) := a.call c
    let (a, answers) := callAll a rest
    (a, answer :: answers)

end Agenda

namespace CollectionQueue

/-- What becomes of a queue, and what the caller is told. -/
def call (q : CollectionQueue L D) : QueueCall L D → CollectionQueue L D × QueueAnswer L D
  | .schedule es => (q.schedule es, .done)
  | .unschedule resources => (q.unschedule resources, .done)
  | .clear => (q.clear, .done)
  | .size => (q, .size q.size)
  | .nextDue => (q, .nextDue q.nextDue?)
  | .pop now => ((q.pop now).1, .popped (q.pop now).2)

/-- The answers to calls one after the other. -/
def callAll (q : CollectionQueue L D) :
    List (QueueCall L D) → CollectionQueue L D × List (QueueAnswer L D)
  | [] => (q, [])
  | c :: rest =>
    let (q, answer) := q.call c
    let (q, answers) := callAll q rest
    (q, answer :: answers)

/-- The queue holds exactly the entries of an agenda. -/
def Tracks (q : CollectionQueue L D) (a : Agenda L D) : Prop :=
  ∀ id e, a[id]? = some e ↔ e ∈ q.toList ∧ e.id = id

section Order

theorem isDue_iff {now : UInt64} (h : now < maxWord) (e : QueueEntry L D) :
    isDue now e.key = true ↔ e.due ≤ now := by
  have hmax : maxWord.toNat = 18446744073709551615 := rfl
  rw [UInt64.lt_iff_toNat_lt, hmax] at h
  simp only [isDue, key_due, decide_eq_true_eq, UInt64.lt_iff_toNat_lt, UInt64.le_iff_toNat_le,
    toNat_satAdd, UInt64.toNat_one]
  omega

theorem again_eq_postpone (now : UInt64) (e : QueueEntry L D) :
    e.again now = Agenda.postpone now e := by
  simp only [QueueEntry.again, Agenda.postpone]
  congr 1
  apply UInt64.toNat_inj.1
  rw [UInt64.toNat_ofNat', nextDue, toNat_roundUpToSecond, toNat_satAdd]
  omega

theorem compare_key (e f : QueueEntry L D) :
    compare e.key f.key = (compare e.due f.due).then
      ((compare e.resource.id f.resource.id).then
        (compare e.measurement.id f.measurement.id)) := rfl

theorem notAfter_iff (e f : QueueEntry L D) :
    Agenda.notAfter e f = true ↔ (compare e.key f.key).isLE = true := by
  simp only [Agenda.notAfter, decide_eq_true_eq, compare_key, Ordering.isLE_then_iff_or,
    Std.compare_eq_lt, compare_lt_iff_lt, Std.LawfulEqOrd.compare_eq_iff_eq,
    Std.LawfulBCmp.isLE_iff_le]

theorem notAfter_trans (e f g : QueueEntry L D) (hef : Agenda.notAfter e f = true)
    (hfg : Agenda.notAfter f g = true) : Agenda.notAfter e g = true := by
  rw [notAfter_iff] at *
  exact Std.TransCmp.isLE_trans hef hfg

theorem notAfter_total (e f : QueueEntry L D) :
    (Agenda.notAfter e f || Agenda.notAfter f e) = true := by
  rw [Bool.or_eq_true, notAfter_iff, notAfter_iff, or_iff_not_imp_left]
  intro h
  rw [Std.OrientedCmp.lt_of_not_isLE h]
  rfl

end Order

section Tracking

variable {q : CollectionQueue L D} {a : Agenda L D}

theorem Tracks.mem_entries (t : Tracks q a) (e : QueueEntry L D) :
    e ∈ a.entries ↔ e ∈ q.toList := by
  simp only [Agenda.entries, List.mem_map, Prod.exists, exists_eq_right,
    Std.TreeMap.mem_toList_iff_getElem?_eq_some, t _ _, exists_and_left, exists_eq',
    and_true]

theorem Tracks.nodup_entries (t : Tracks q a) : a.entries.Nodup := by
  have keys := Std.TreeMap.distinct_keys_toList (t := a)
  rw [Agenda.entries, List.Nodup, List.pairwise_map]
  refine keys.imp_of_mem fun {x y} hx hy hxy heq => hxy ?_
  rw [Std.TreeMap.mem_toList_iff_getElem?_eq_some, t] at hx hy
  rw [Std.LawfulEqOrd.compare_eq_iff_eq, ← hx.2, ← hy.2, heq]

/-- An agenda lists the entries of the queue that it tracks, if in another order. -/
theorem Tracks.perm (t : Tracks q a) (h : InStep [] q) : a.entries.Perm q.toList :=
  (List.perm_ext_iff_of_nodup t.nodup_entries (List.Nodup.of_map _ h.nodup_ids)).2 t.mem_entries

theorem tracks_empty : Tracks ({} : CollectionQueue L D) ∅ := by
  intro id e
  simp [toList]

theorem Tracks.scheduleOne (t : Tracks q a) (h : InStep [] q) (e : QueueEntry L D) :
    Tracks (q.scheduleOne e) (a.insert e.id e) := by
  intro id f
  simp only [Std.TreeMap.getElem?_insert, Std.LawfulEqOrd.compare_eq_iff_eq, h.mem_scheduleOne]
  by_cases hid : e.id = id
  · subst hid
    simp only [if_true, Option.some.injEq]
    constructor
    · rintro rfl
      exact ⟨Or.inl rfl, rfl⟩
    · rintro ⟨rfl | ⟨_, hne⟩, hf⟩
      · rfl
      · exact absurd hf hne
  · rw [if_neg hid, t]
    constructor
    · rintro ⟨hf, rfl⟩
      exact ⟨Or.inr ⟨hf, Ne.symm hid⟩, rfl⟩
    · rintro ⟨rfl | ⟨hf, _⟩, hid'⟩
      · exact absurd hid' hid
      · exact ⟨hf, hid'⟩

/-- Scheduling entries one after the other is updating a map one after the other. -/
theorem Tracks.schedule (t : Tracks q a) (h : InStep [] q) (es : List (QueueEntry L D)) :
    Tracks (q.schedule es) (es.foldl (fun a e => a.insert e.id e) a) := by
  have fold : Tracks (es.foldl CollectionQueue.scheduleOne q)
      (es.foldl (fun a e => a.insert e.id e) a) := by
    induction es generalizing q a with
    | nil => exact t
    | cons e rest ih => exact ih (t.scheduleOne h e) (h.scheduleOne e)
  intro id e
  rw [schedule_toList]
  exact fold id e

theorem Tracks.unschedule (t : Tracks q a) (h : InStep [] q) (resources : List String) :
    Tracks (q.unschedule resources) (a.filter fun id _ => !resources.contains id.resource) := by
  intro id e
  rw [Std.TreeMap.getElem?_filter', Option.filter_eq_some_iff, t, h.mem_unschedule]
  constructor
  · rintro ⟨⟨he, rfl⟩, hr⟩
    exact ⟨⟨he, by simpa using hr⟩, rfl⟩
  · rintro ⟨⟨he, hr⟩, rfl⟩
    exact ⟨⟨he, rfl⟩, by simpa using hr⟩

theorem tracks_clear (q : CollectionQueue L D) : Tracks q.clear ∅ := by
  intro id e
  simp

theorem mem_dueEntries {now : UInt64} (h : InStep [] q) (hn : now < maxWord)
    (e : QueueEntry L D) : e ∈ q.dueEntries now ↔ e ∈ q.toList ∧ e.due ≤ now := by
  rw [h.dueEntries_eq, List.mem_filter, isDue_iff hn]

/-- What is due is taken in the order of due times, then resources, then measurements. -/
theorem Tracks.dueEntries_eq (t : Tracks q a) (h : InStep [] q) {now : UInt64}
    (hn : now < maxWord) : q.dueEntries now = a.dueEntries now := by
  have filtered : q.dueEntries now = q.toList.filter fun e => e.due ≤ now := by
    rw [h.dueEntries_eq]
    refine List.filter_congr fun e _ => ?_
    rw [Bool.eq_iff_iff, isDue_iff hn, decide_eq_true_eq]
  have sorted : (q.dueEntries now).Pairwise fun e f => Agenda.notAfter e f = true := by
    rw [filtered]
    refine (h.pairwise_toList.filter _).imp fun {e f} hef => ?_
    rw [notAfter_iff, hef]
    rfl
  have perm : (q.dueEntries now).Perm (a.dueEntries now) := by
    rw [filtered]
    exact (((t.perm h).filter _).symm).trans (List.mergeSort_perm _ _).symm
  refine List.Perm.eq_of_pairwise (fun e f he hf hef hfe => ?_) sorted
    (List.pairwise_mergeSort notAfter_trans notAfter_total _) perm
  have hkey : e.key = f.key := by
    rw [notAfter_iff] at hef hfe
    exact Std.LawfulEqOrd.compare_eq_iff_eq.1 (Std.OrientedCmp.isLE_antisymm hef hfe)
  have hf' := perm.mem_iff.2 hf
  rw [filtered, List.mem_filter] at he hf'
  exact h.eq_of_key_eq he.1 hf'.1 hkey

/-- A collection postpones what is due and touches nothing else. -/
theorem Tracks.pop (t : Tracks q a) (h : InStep [] q) {now : UInt64} (hn : now < maxWord) :
    Tracks (q.pop now).1
      (a.map fun _ e => if e.due ≤ now then Agenda.postpone now e else e) := by
  intro id f
  rw [(h.pop now).2, Std.TreeMap.getElem?_map, Option.map_eq_some_iff]
  simp only [t _ _, mem_dueEntries h hn, ← Bool.not_eq_true, isDue_iff hn, again_eq_postpone]
  constructor
  · rintro ⟨e, ⟨he, rfl⟩, hf⟩
    split at hf
    · rename_i hdue
      subst hf
      exact ⟨Or.inl ⟨e, ⟨he, hdue⟩, rfl⟩, rfl⟩
    · rename_i hdue
      subst hf
      exact ⟨Or.inr ⟨he, hdue⟩, rfl⟩
  · rintro ⟨⟨e, ⟨he, hdue⟩, rfl⟩ | ⟨hf, hdue⟩, rfl⟩
    · exact ⟨e, ⟨he, rfl⟩, if_pos hdue⟩
    · exact ⟨f, ⟨hf, rfl⟩, if_neg hdue⟩

theorem Tracks.size_eq (t : Tracks q a) (h : InStep [] q) : q.size = a.size := by
  have := (t.perm h).length_eq
  simp only [Agenda.entries, toList, List.length_map, Std.TreeMap.length_toList] at this
  exact this.symm

theorem nextDue?_eq_head? (h : InStep [] q) : q.nextDue? = q.toList.head?.map (·.due) := by
  have key : ∀ x ∈ q.entries.toList.head?, x.1.due = x.2.due := by
    intro x hx
    have hmem := List.mem_of_head? hx
    rw [Std.TreeMap.mem_toList_iff_getElem?_eq_some] at hmem
    exact (congrArg QueueKey.due (h.key_eq hmem)).symm
  rw [nextDue?, toList, Std.TreeMap.minKey?_eq_head?_keys, ← Std.TreeMap.map_fst_toList_eq_keys,
    List.head?_map, List.head?_map, Option.map_map, Option.map_map]
  exact Option.map_congr key

theorem Tracks.nextDue?_eq (t : Tracks q a) (h : InStep [] q) :
    q.nextDue? = (a.entries.map (·.due)).min? := by
  have sorted : (q.toList.map (·.due)).Pairwise fun s t => min s t = s := by
    rw [List.pairwise_map]
    refine h.pairwise_toList.imp fun {e f} hef => ?_
    have hle : e.due ≤ f.due := by
      rw [compare_key, Ordering.then_eq_lt, Std.compare_eq_lt,
        Std.LawfulEqOrd.compare_eq_iff_eq] at hef
      rcases hef with hlt | ⟨heq, _⟩
      · exact UInt64.le_of_lt hlt
      · exact UInt64.le_of_eq heq
    rw [Std.min_eq_if, if_pos hle]
  have perm : (a.entries.map (·.due)).Perm (q.toList.map (·.due)) := (t.perm h).map _
  rw [nextDue?_eq_head? h, ← List.head?_map, ← List.min?_eq_head? sorted]
  ext due
  rw [List.min?_eq_some_iff, List.min?_eq_some_iff]
  simp only [perm.mem_iff]

end Tracking

section Runs

/-- A call keeps the queue in step with the agenda, and both give the same answer. -/
theorem call_agrees {q : CollectionQueue L D} {a : Agenda L D} (h : InStep [] q)
    (t : Tracks q a) (c : QueueCall L D) (hc : ∀ now, c = .pop now → now < maxWord) :
    InStep [] (q.call c).1 ∧ Tracks (q.call c).1 (a.call c).1 ∧ (q.call c).2 = (a.call c).2 := by
  cases c with
  | schedule es => exact ⟨h.schedule es, t.schedule h es, rfl⟩
  | unschedule resources => exact ⟨h.unschedule resources, t.unschedule h resources, rfl⟩
  | clear => exact ⟨inStep_clear q, tracks_clear q, rfl⟩
  | size => exact ⟨h, t, congrArg QueueAnswer.size (t.size_eq h)⟩
  | nextDue => exact ⟨h, t, congrArg QueueAnswer.nextDue (t.nextDue?_eq h)⟩
  | pop now =>
      have hn := hc now rfl
      exact ⟨(h.pop now).1, t.pop h hn, congrArg QueueAnswer.popped (t.dueEntries_eq h hn)⟩

theorem callAll_agrees {q : CollectionQueue L D} {a : Agenda L D} (h : InStep [] q)
    (t : Tracks q a) (calls : List (QueueCall L D))
    (hc : ∀ now, .pop now ∈ calls → now < maxWord) :
    InStep [] (q.callAll calls).1 ∧ Tracks (q.callAll calls).1 (a.callAll calls).1 ∧
      (q.callAll calls).2 = (a.callAll calls).2 := by
  induction calls generalizing q a with
  | nil => exact ⟨h, t, rfl⟩
  | cons c rest ih =>
      obtain ⟨h', t', answer⟩ := call_agrees h t c fun now hnow => hc now (by simp [hnow])
      obtain ⟨hrest, trest, answers⟩ := ih h' t' fun now hnow => hc now (by simp [hnow])
      exact ⟨hrest, trest, congrArg₂ List.cons answer answers⟩

/-- Whatever calls are made, with whatever clock readings before the last moment of the clock,
the queue answers as the agenda does and holds the entries of the agenda. Its due times are
exactly the places of its entries, and no measurement is queued twice. -/
theorem callAll_refines_agenda (calls : List (QueueCall L D))
    (hclock : ∀ now, .pop now ∈ calls → now < maxWord) :
    let (q, answers) := ({} : CollectionQueue L D).callAll calls
    answers = (Agenda.callAll ∅ calls).2 ∧
      (∀ id e, (Agenda.callAll ∅ calls).1[id]? = some e ↔ e ∈ q.toList ∧ e.id = id) ∧
      (∀ id due, q.dueTimes[id]? = some due ↔
        ∃ e, q.entries[(⟨due, id⟩ : QueueKey)]? = some e ∧ e.id = id ∧ e.due = due) ∧
      (q.toList.map (·.id)).Nodup := by
  obtain ⟨h, t, answers⟩ := callAll_agrees inStep_empty tracks_empty calls hclock
  refine ⟨answers, t, fun id due => ?_, h.nodup_ids⟩
  rw [h.due_iff (by simp)]
  refine exists_congr fun e => ⟨fun he => ⟨he, ?_⟩, And.left⟩
  have hkey := h.key_eq he
  exact ⟨congrArg QueueKey.id hkey, congrArg QueueKey.due hkey⟩

/-- An entry of a measurement that is collected every second. -/
def everySecond (resource measurement : String) (due : UInt64) : QueueEntry Unit Unit where
  resource :=
    { id := resource, name := resource, location := (),
      type := { name := "T", location := (), nameTemplate := resource } }
  measurement :=
    { id := measurement, location := ⟨(), measurement, none⟩,
      type :=
        { name := measurement, location := ⟨(), measurement, none⟩,
          interval := Interval.seconds 1, detail := () } }
  due := due

/-- A measurement that is scheduled twice in one call, with a clock that runs backwards. -/
theorem callAll_refines_agenda_moved :
    let calls : List (QueueCall Unit Unit) :=
      [.schedule [everySecond "a" "m" 1000, everySecond "b" "m" 2000, everySecond "a" "m" 2000],
        .pop 2500, .unschedule ["b"], .pop 1500, .nextDue]
    (∀ now, .pop now ∈ calls → now < maxWord) ∧
      (({} : CollectionQueue Unit Unit).callAll calls).2 = (Agenda.callAll ∅ calls).2 ∧
      ((({} : CollectionQueue Unit Unit).callAll calls).1.toList.map (·.id)).Nodup := by
  intro calls
  have hclock : ∀ now, .pop now ∈ calls → now < maxWord := by
    intro now hnow
    simp only [calls, List.mem_cons, reduceCtorEq, QueueCall.pop.injEq, List.not_mem_nil,
      false_or, or_false] at hnow
    rcases hnow with rfl | rfl <;> decide
  have refines := callAll_refines_agenda calls hclock
  exact ⟨hclock, refines.1, refines.2.2.2⟩

end Runs

end CollectionQueue

end EndpointMonitor
