import EndpointMonitor.Proofs.Schedule.Mirroring
import Mathlib.Data.Finset.Card
import Mathlib.Data.Finset.Dedup

/-!
# What scheduling adds to a queue

The queue has one place for each identifier. Entries of measurements that are not in the queue add
as many places as they have identifiers, so that a resource is scheduled completely exactly if no
two of its measurements share one.
-/

namespace EndpointMonitor

variable {L D : Type}

namespace CollectionQueue

variable {q : CollectionQueue L D} {es : List (QueueEntry L D)}

theorem size_eq_length (q : CollectionQueue L D) : q.size = q.toList.length := by
  rw [size, toList, List.length_map, Std.TreeMap.length_toList]

/-- The measurements in a queue after scheduling are those that were there and the new ones. -/
theorem InStep.mem_ids_schedule (h : InStep [] q) (es : List (QueueEntry L D))
    (id : MeasurementKey) : id ∈ (q.schedule es).toList.map (·.id) ↔
      id ∈ es.map (·.id) ∨ id ∈ q.toList.map (·.id) := by
  rw [schedule_toList]
  simp only [List.mem_map]
  constructor
  · rintro ⟨f, hf, rfl⟩
    exact (h.mem_foldl_cases hf).imp (fun hf => ⟨f, hf, rfl⟩) fun hf => ⟨f, hf, rfl⟩
  · rintro (⟨e, he, rfl⟩ | ⟨f, hf, rfl⟩)
    · exact h.exists_mem_foldl he
    · by_cases hnew : ∃ e ∈ es, f.id = e.id
      · obtain ⟨e, he, heq⟩ := hnew
        rw [heq]
        exact h.exists_mem_foldl he
      · exact ⟨f, h.mem_foldl_of_mem hf fun e he heq => hnew ⟨e, he, heq⟩, rfl⟩

/-- Measurements that are not in the queue get a place for each identifier. -/
theorem InStep.size_schedule (h : InStep [] q)
    (hnew : ∀ e ∈ es, e.id ∉ q.toList.map (·.id)) :
    (q.schedule es).size = q.size + (es.map (·.id)).dedup.length := by
  have hids : ((q.schedule es).toList.map (·.id)).toFinset =
      (q.toList.map (·.id)).toFinset ∪ (es.map (·.id)).toFinset := by
    ext id
    rw [Finset.mem_union, List.mem_toFinset, List.mem_toFinset, List.mem_toFinset,
      h.mem_ids_schedule, or_comm]
  have hdisjoint : Disjoint (q.toList.map (·.id)).toFinset (es.map (·.id)).toFinset := by
    rw [List.disjoint_toFinset_iff_disjoint]
    intro id hq hes
    obtain ⟨e, he, rfl⟩ := List.mem_map.1 hes
    exact hnew e he hq
  have hcard := congrArg Finset.card hids
  rwa [Finset.card_union_of_disjoint hdisjoint, List.toFinset_card_of_nodup h.nodup_ids,
    List.toFinset_card_of_nodup (h.schedule es).nodup_ids, List.card_toFinset, List.length_map,
    List.length_map, ← size_eq_length, ← size_eq_length] at hcard

/-- New entries of different measurements all stand in the queue afterwards. -/
theorem InStep.mem_schedule (h : InStep [] q) (hnew : ∀ e ∈ es, e.id ∉ q.toList.map (·.id))
    (hnodup : (es.map (·.id)).Nodup) {e : QueueEntry L D} (he : e ∈ es) :
    e ∈ (q.schedule es).toList := by
  rw [schedule_toList]
  obtain ⟨f, hf, hid⟩ := h.exists_mem_foldl he
  rcases h.mem_foldl_cases hf with hmem | hmem
  · rwa [List.inj_on_of_nodup_map hnodup hmem he hid] at hf
  · exact absurd (List.mem_map.2 ⟨f, hmem, hid⟩) (hnew e he)

/-- New entries take one place each exactly if they are of different measurements. -/
theorem InStep.size_schedule_iff (h : InStep [] q)
    (hnew : ∀ e ∈ es, e.id ∉ q.toList.map (·.id)) :
    (q.schedule es).size = q.size + es.length ↔ (es.map (·.id)).Nodup := by
  rw [h.size_schedule hnew, Nat.add_left_cancel_iff]
  constructor
  · intro hlength
    have hsame : (es.map (·.id)).dedup = es.map (·.id) :=
      (List.dedup_sublist _).eq_of_length (by rw [hlength, List.length_map])
    exact List.dedup_eq_self.1 hsame
  · intro hnodup
    rw [List.dedup_eq_self.2 hnodup, List.length_map]

end CollectionQueue

namespace Resource

variable (D) [MeasurementKind D]

/-- Whenever the resource is scheduled in a queue without it, each of its measurements gets its own
entry. -/
def EachScheduled (r : Resource L) : Prop :=
  ∀ (now : UInt64) (q : CollectionQueue L D), q.InStep [] →
    (∀ e ∈ q.toList, e.id.resource ≠ r.id) →
      (q.schedule (QueueEntry.ofResource now r)).size =
          q.size + (MeasurementKind.instances (D := D) r).length ∧
        ∀ e ∈ QueueEntry.ofResource now r, e ∈ (q.schedule (QueueEntry.ofResource now r)).toList

variable {D} {r : Resource L}

theorem ids_ofResource (now : UInt64) (r : Resource L) :
    (QueueEntry.ofResource (D := D) now r).map (·.id) =
      ((MeasurementKind.instances (D := D) r).map (·.id)).map (MeasurementKey.mk r.id) := by
  simp [QueueEntry.ofResource, QueueEntry.id, Function.comp_def]

theorem nodup_ids_ofResource_iff (now : UInt64) :
    ((QueueEntry.ofResource (D := D) now r).map (·.id)).Nodup ↔
      ((MeasurementKind.instances (D := D) r).map (·.id)).Nodup := by
  have hinjective : Function.Injective (MeasurementKey.mk r.id) := fun _ _ h => by cases h; rfl
  rw [ids_ofResource, List.nodup_map_iff hinjective]

/-- A resource is scheduled completely exactly if its measurements have different identifiers. -/
theorem eachScheduled_iff : r.EachScheduled D ↔
    ((MeasurementKind.instances (D := D) r).map (·.id)).Nodup := by
  have hlength : ∀ now, (QueueEntry.ofResource (D := D) now r).length =
      (MeasurementKind.instances (D := D) r).length := by
    simp [QueueEntry.ofResource]
  constructor
  · intro h
    have hsize := (h 0 {} CollectionQueue.inStep_empty (by simp [CollectionQueue.toList])).1
    rw [← hlength 0, CollectionQueue.inStep_empty.size_schedule_iff
      (by simp [CollectionQueue.toList])] at hsize
    exact (nodup_ids_ofResource_iff 0).1 hsize
  · intro hnodup now q hq habsent
    have hnew : ∀ e ∈ QueueEntry.ofResource (D := D) now r, e.id ∉ q.toList.map (·.id) := by
      intro e he hmem
      obtain ⟨f, hf, hid⟩ := List.mem_map.1 hmem
      obtain ⟨m, -, rfl⟩ := CollectionQueue.mem_ofResource_iff.1 he
      exact habsent f hf (congrArg MeasurementKey.resource hid)
    have hids := (nodup_ids_ofResource_iff (D := D) now).2 hnodup
    exact ⟨by rw [(hq.size_schedule_iff hnew).2 hids, hlength],
      fun e he => hq.mem_schedule hnew hids he⟩

end Resource

end EndpointMonitor
