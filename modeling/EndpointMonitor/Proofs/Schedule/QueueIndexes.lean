import EndpointMonitor.Schedule.CollectionQueue
import Mathlib.Data.List.Nodup

/-!
# The two indexes of the collection queue

The due time of a measurement names the place of its entry, and every entry stands at the
place its own data names. While entries are moved some measurements have lost their place;
the agreement is stated for all others, so each single move can be followed.
-/

namespace EndpointMonitor.CollectionQueue

variable {L D : Type}

/-- The indexes agree about all measurements but the missing ones, which have no entry. -/
structure InStep (missing : List MeasurementKey) (q : CollectionQueue L D) : Prop where
  key_eq : ∀ {k} {e : QueueEntry L D}, q.entries[k]? = some e → e.key = k
  due_iff : ∀ {id t}, id ∉ missing →
    (q.dueTimes[id]? = some t ↔ ∃ e, q.entries[(⟨t, id⟩ : QueueKey)]? = some e)
  absent : ∀ {id t}, id ∈ missing → q.entries[(⟨t, id⟩ : QueueKey)]? = none

/-- An empty queue has nothing to disagree about. -/
theorem inStep_empty : InStep [] ({} : CollectionQueue L D) where
  key_eq h := by simp at h
  due_iff := by simp
  absent h := by simp at h

@[simp] theorem key_due (e : QueueEntry L D) : e.key.due = e.due := rfl

@[simp] theorem key_id (e : QueueEntry L D) : e.key.id = e.id := rfl

section Listing

variable {missing : List MeasurementKey} {q : CollectionQueue L D}

theorem InStep.mem_toList (h : InStep missing q) (e : QueueEntry L D) :
    e ∈ q.toList ↔ q.entries[e.key]? = some e := by
  simp only [toList, List.mem_map, Prod.exists, exists_eq_right,
    Std.TreeMap.mem_toList_iff_getElem?_eq_some]
  constructor
  · rintro ⟨k, hk⟩
    rwa [h.key_eq hk]
  · intro he
    exact ⟨e.key, he⟩

/-- The entries of a place are its only one. -/
theorem InStep.eq_of_key_eq (h : InStep missing q) {e f : QueueEntry L D}
    (he : e ∈ q.toList) (hf : f ∈ q.toList) (hk : e.key = f.key) : e = f := by
  rw [h.mem_toList] at he hf
  rw [hk, hf] at he
  exact (Option.some.inj he).symm

theorem InStep.notMem_missing (h : InStep missing q) {e : QueueEntry L D}
    (he : e ∈ q.toList) : e.id ∉ missing := by
  intro hm
  have hn : q.entries[e.key]? = none := h.absent hm
  rw [(h.mem_toList e).1 he] at hn
  cases hn

theorem InStep.due_of_mem (h : InStep missing q) {e : QueueEntry L D} (he : e ∈ q.toList) :
    q.dueTimes[e.id]? = some e.due :=
  (h.due_iff (h.notMem_missing he)).2 ⟨e, (h.mem_toList e).1 he⟩

/-- A measurement has one entry. -/
theorem InStep.eq_of_id_eq (h : InStep missing q) {e f : QueueEntry L D}
    (he : e ∈ q.toList) (hf : f ∈ q.toList) (hid : e.id = f.id) : e = f := by
  have hd : some e.due = some f.due := by
    rw [← h.due_of_mem he, ← h.due_of_mem hf, hid]
  apply h.eq_of_key_eq he hf
  simp only [QueueEntry.key, hid, Option.some.inj hd]

/-- The entries are listed in the order of their places. -/
theorem InStep.pairwise_toList (h : InStep missing q) :
    q.toList.Pairwise fun e f => compare e.key f.key = .lt := by
  have ordered := Std.TreeMap.ordered_keys_toList (t := q.entries)
  rw [toList, List.pairwise_map]
  refine ordered.imp_of_mem fun {a b} ha hb hab => ?_
  rw [Std.TreeMap.mem_toList_iff_getElem?_eq_some] at ha hb
  rwa [h.key_eq ha, h.key_eq hb]

/-- No measurement is listed twice. -/
theorem InStep.nodup_ids (h : InStep missing q) : (q.toList.map (·.id)).Nodup := by
  have nodup : q.toList.Nodup := h.pairwise_toList.imp fun {e f} hef heq => by
    subst heq
    simp at hef
  exact nodup.map_on fun e he f hf hid => h.eq_of_id_eq he hf hid

end Listing

section Moves

variable {missing : List MeasurementKey} {q : CollectionQueue L D}

/-- A displaced measurement is the only one without an entry. -/
theorem InStep.displace (h : InStep [] q) (id : MeasurementKey) :
    InStep [id] (q.displace id) := by
  unfold CollectionQueue.displace
  cases hd : q.dueTimes[id]? with
  | none =>
      have hn : ∀ t, q.entries[(⟨t, id⟩ : QueueKey)]? = none := by
        intro t
        by_contra hne
        obtain ⟨e, he⟩ := Option.ne_none_iff_exists'.1 hne
        have := (h.due_iff (by simp)).2 ⟨e, he⟩
        rw [hd] at this
        cases this
      refine ⟨h.key_eq, fun _ => h.due_iff (by simp), fun hm => ?_⟩
      rw [List.mem_singleton.1 hm]
      exact hn _
  | some due =>
      refine ⟨fun {k e} hk => ?_, fun {i t} hi => ?_, fun {i t} hi => ?_⟩
      · simp only [Std.TreeMap.getElem?_erase] at hk
        split at hk
        · cases hk
        · exact h.key_eq hk
      · have hne : ¬ compare (⟨due, id⟩ : QueueKey) ⟨t, i⟩ = .eq := by
          rw [Std.LawfulEqOrd.compare_eq_iff_eq]
          rintro ⟨⟩
          simp at hi
        simp only [Std.TreeMap.getElem?_erase, if_neg hne]
        exact h.due_iff (by simp)
      · rw [List.mem_singleton.1 hi]
        simp only [Std.TreeMap.getElem?_erase]
        split
        · rfl
        · rename_i hne
          by_contra hs
          have hdue := (h.due_iff (by simp)).2 (Option.ne_none_iff_exists'.1 hs)
          rw [hd] at hdue
          exact hne (by rw [Option.some.inj hdue]; exact Std.ReflCmp.compare_self)

theorem InStep.mem_displace (h : InStep [] q) (id : MeasurementKey) (f : QueueEntry L D) :
    f ∈ (q.displace id).toList ↔ f ∈ q.toList ∧ f.id ≠ id := by
  rw [(h.displace id).mem_toList, h.mem_toList]
  unfold CollectionQueue.displace
  cases hd : q.dueTimes[id]? with
  | none =>
      refine ⟨fun hf => ⟨hf, ?_⟩, And.left⟩
      rintro rfl
      have := h.due_of_mem ((h.mem_toList f).2 hf)
      rw [hd] at this
      cases this
  | some due =>
      simp only [Std.TreeMap.getElem?_erase, Std.LawfulEqOrd.compare_eq_iff_eq]
      constructor
      · intro hf
        split at hf
        · cases hf
        · rename_i hne
          refine ⟨hf, ?_⟩
          rintro rfl
          have hdue := h.due_of_mem ((h.mem_toList f).2 hf)
          rw [hd] at hdue
          exact hne (by rw [Option.some.inj hdue, QueueEntry.key])
      · rintro ⟨hf, hne⟩
        rw [if_neg, hf]
        intro hk
        exact hne (congrArg QueueKey.id hk).symm

/-- Putting an entry of a missing measurement into its place gives that one its place back. -/
theorem InStep.put {e : QueueEntry L D} (h : InStep (e.id :: missing) q)
    (hid : e.id ∉ missing) : InStep missing (q.put e) := by
  have hnone : ∀ t, q.entries[(⟨t, e.id⟩ : QueueKey)]? = none := fun t => h.absent (by simp)
  refine ⟨fun {k f} hk => ?_, fun {i t} hi => ?_, fun {i t} hi => ?_⟩
  · simp only [CollectionQueue.put, Std.TreeMap.getElem?_insert,
      Std.LawfulEqOrd.compare_eq_iff_eq] at hk
    split at hk
    · rename_i heq
      rw [← Option.some.inj hk, heq]
    · exact h.key_eq hk
  · simp only [CollectionQueue.put, Std.TreeMap.getElem?_insert,
      Std.LawfulEqOrd.compare_eq_iff_eq]
    by_cases heq : e.id = i
    · subst heq
      simp only [if_true, Option.some.injEq]
      constructor
      · rintro rfl
        exact ⟨e, if_pos rfl⟩
      · rintro ⟨f, hf⟩
        split at hf
        · rename_i hk
          exact congrArg QueueKey.due hk
        · rw [hnone] at hf
          cases hf
    · have hk : ¬ e.key = ⟨t, i⟩ := fun hk => heq (congrArg QueueKey.id hk)
      simp only [if_neg heq, if_neg hk]
      exact h.due_iff (by simp [Ne.symm heq, hi])
  · have hk : ¬ e.key = ⟨t, i⟩ := by
      intro hk
      have heq : e.id = i := congrArg QueueKey.id hk
      exact hid (heq ▸ hi)
    simp only [CollectionQueue.put, Std.TreeMap.getElem?_insert,
      Std.LawfulEqOrd.compare_eq_iff_eq, if_neg hk]
    exact h.absent (by simp [hi])

theorem InStep.mem_put {e : QueueEntry L D} (h : InStep (e.id :: missing) q)
    (hid : e.id ∉ missing) (f : QueueEntry L D) :
    f ∈ (q.put e).toList ↔ f = e ∨ f ∈ q.toList := by
  rw [(h.put hid).mem_toList, h.mem_toList]
  simp only [CollectionQueue.put, Std.TreeMap.getElem?_insert,
    Std.LawfulEqOrd.compare_eq_iff_eq]
  by_cases hk : e.key = f.key
  · have hnone : q.entries[f.key]? = none := by
      rw [← hk]
      exact h.absent (by simp)
    simp [hk, hnone, eq_comm]
  · have hne : f ≠ e := fun heq => hk (by rw [heq])
    simp [hk, hne]

/-- Putting entries of different missing measurements into their places fills all places. -/
theorem InStep.foldl_put {es : List (QueueEntry L D)} (h : InStep (es.map (·.id)) q)
    (hd : (es.map (·.id)).Nodup) :
    InStep [] (es.foldl CollectionQueue.put q) ∧
      ∀ f, f ∈ (es.foldl CollectionQueue.put q).toList ↔ f ∈ es ∨ f ∈ q.toList := by
  induction es generalizing q with
  | nil => exact ⟨h, by simp⟩
  | cons e rest ih =>
      obtain ⟨hid, hrest⟩ := List.nodup_cons.1 hd
      obtain ⟨hin, hmem⟩ := ih (h.put hid) hrest
      refine ⟨hin, fun f => ?_⟩
      rw [List.foldl_cons, hmem, h.mem_put hid, List.mem_cons, or_left_comm, or_assoc]

theorem InStep.scheduleOne (h : InStep [] q) (e : QueueEntry L D) :
    InStep [] (q.scheduleOne e) :=
  (h.displace e.id).put (by simp)

theorem InStep.mem_scheduleOne (h : InStep [] q) (e f : QueueEntry L D) :
    f ∈ (q.scheduleOne e).toList ↔ f = e ∨ f ∈ q.toList ∧ f.id ≠ e.id := by
  rw [CollectionQueue.scheduleOne, (h.displace e.id).mem_put (by simp), h.mem_displace]

end Moves

section Operations

variable {q : CollectionQueue L D}

theorem InStep.foldl_scheduleOne (h : InStep [] q) (es : List (QueueEntry L D)) :
    InStep [] (es.foldl CollectionQueue.scheduleOne q) := by
  induction es generalizing q with
  | nil => exact h
  | cons e rest ih => exact ih (h.scheduleOne e)

/-- Whether the queue is awake is no matter of its indexes. -/
theorem InStep.congr {p : CollectionQueue L D} {missing : List MeasurementKey}
    (h : InStep missing p) (he : q.entries = p.entries) (hd : q.dueTimes = p.dueTimes) :
    InStep missing q := by
  constructor
  · rw [he]
    exact h.key_eq
  · rw [he, hd]
    exact h.due_iff
  · rw [he]
    exact h.absent

theorem InStep.schedule (h : InStep [] q) (es : List (QueueEntry L D)) :
    InStep [] (q.schedule es) := by
  unfold CollectionQueue.schedule
  split
  · exact h
  · exact (h.foldl_scheduleOne es).congr rfl rfl

theorem schedule_toList (q : CollectionQueue L D) (es : List (QueueEntry L D)) :
    (q.schedule es).toList = (es.foldl CollectionQueue.scheduleOne q).toList := by
  unfold CollectionQueue.schedule
  split
  · rename_i hnil
    rw [List.isEmpty_iff.1 hnil, List.foldl_nil]
  · rfl

theorem InStep.unschedule (h : InStep [] q) (resources : List String) :
    InStep [] (q.unschedule resources) := by
  refine ⟨fun {k e} hk => ?_, fun {i t} _ => ?_, fun hm => by simp at hm⟩
  · simp only [CollectionQueue.unschedule, Std.TreeMap.getElem?_filter',
      Option.filter_eq_some_iff] at hk
    exact h.key_eq hk.1
  · have due : q.dueTimes[i]? = some t ↔ ∃ e, q.entries[(⟨t, i⟩ : QueueKey)]? = some e :=
      h.due_iff (by simp)
    simp only [CollectionQueue.unschedule, Std.TreeMap.getElem?_filter',
      Option.filter_eq_some_iff, due]
    rw [exists_and_right]

theorem InStep.mem_unschedule (h : InStep [] q) (resources : List String)
    (f : QueueEntry L D) :
    f ∈ (q.unschedule resources).toList ↔ f ∈ q.toList ∧ f.id.resource ∉ resources := by
  rw [(h.unschedule resources).mem_toList, h.mem_toList]
  simp [CollectionQueue.unschedule, Option.filter_eq_some_iff]

theorem inStep_clear (q : CollectionQueue L D) : InStep [] q.clear :=
  inStep_empty.congr rfl rfl

@[simp] theorem toList_clear (q : CollectionQueue L D) : q.clear.toList = [] := rfl

theorem InStep.dueEntries_eq (h : InStep [] q) (now : UInt64) :
    q.dueEntries now = q.toList.filter fun e => isDue now e.key := by
  unfold CollectionQueue.dueEntries CollectionQueue.toList
  rw [Std.TreeMap.toList_filter, List.filter_map]
  refine congrArg _ (List.filter_congr fun a ha => ?_)
  rw [Std.TreeMap.mem_toList_iff_getElem?_eq_some] at ha
  simp only [Function.comp_apply, h.key_eq ha]

/-- Exactly the measurements that are due lose their places. -/
theorem InStep.takeDue (h : InStep [] q) (now : UInt64) :
    InStep ((q.dueEntries now).map (·.id))
      { q with entries := q.entries.filter fun k _ => !isDue now k } := by
  have hkey : ∀ {k e}, q.entries[k]? = some e → e ∈ q.toList ∧ e.key = k := by
    intro k e hk
    have := h.key_eq hk
    exact ⟨(h.mem_toList e).2 (this ▸ hk), this⟩
  refine ⟨fun {k e} hk => ?_, fun {i t} hi => ?_, fun {i t} hi => ?_⟩
  · simp only [Std.TreeMap.getElem?_filter', Option.filter_eq_some_iff] at hk
    exact h.key_eq hk.1
  · simp only [Std.TreeMap.getElem?_filter', Option.filter_eq_some_iff]
    rw [h.due_iff (by simp)]
    refine exists_congr fun e => ⟨fun he => ⟨he, ?_⟩, And.left⟩
    obtain ⟨hmem, hek⟩ := hkey he
    by_contra hdue
    apply hi
    rw [h.dueEntries_eq, List.mem_map]
    refine ⟨e, List.mem_filter.2 ⟨hmem, ?_⟩, congrArg QueueKey.id hek⟩
    rw [hek]
    simpa using hdue
  · obtain ⟨e, he, rfl⟩ := List.mem_map.1 hi
    rw [h.dueEntries_eq, List.mem_filter] at he
    simp only [Std.TreeMap.getElem?_filter', Option.filter_eq_none_iff]
    intro f hf
    obtain ⟨hmem, hfk⟩ := hkey hf
    have heq : f = e := h.eq_of_id_eq hmem he.1 (congrArg QueueKey.id hfk)
    rw [← hfk, heq, he.2]
    simp

/-- After a collection every entry that was due waits for its next interval, and all others
stand where they stood. -/
theorem InStep.pop (h : InStep [] q) (now : UInt64) :
    InStep [] (q.pop now).1 ∧ ∀ f, f ∈ (q.pop now).1.toList ↔
      (∃ e ∈ q.dueEntries now, f = e.again now) ∨
        f ∈ q.toList ∧ isDue now f.key = false := by
  have ids : ((q.dueEntries now).map (·.again now)).map (·.id) =
      (q.dueEntries now).map (·.id) := by
    rw [List.map_map]
    rfl
  have nodup : ((q.dueEntries now).map (·.id)).Nodup := by
    rw [h.dueEntries_eq]
    exact (h.nodup_ids).sublist (List.filter_sublist.map _)
  have rest := h.takeDue now
  rw [← ids] at rest nodup
  obtain ⟨hin, hmem⟩ := rest.foldl_put nodup
  refine ⟨hin, fun f => ?_⟩
  rw [CollectionQueue.pop, hmem, rest.mem_toList, h.mem_toList, List.mem_map]
  simp only [Std.TreeMap.getElem?_filter', Option.filter_eq_some_iff, Bool.not_eq_true',
    eq_comm (a := f)]

end Operations

end EndpointMonitor.CollectionQueue
