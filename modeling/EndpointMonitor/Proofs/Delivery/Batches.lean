import EndpointMonitor.Delivery.Buffering
import Mathlib.Data.List.Induction

/-!
# Batches of accepted points

A batch is determined by the points added to it. Adding a point to the batch of a dispatcher, or
handing the batch to the storage, moves points on and changes none: those handed over so far, in
chunks of limited size, are followed by those in the batch.
-/

namespace EndpointMonitor

variable {P : Type} [DataPoint P]

namespace Payload

/-- The batch of some points. -/
def ofPoints (points : List P) : Payload P :=
  points.foldl add {}

theorem ofPoints_concat (points : List P) (point : P) :
    ofPoints (points ++ [point]) = (ofPoints points).add point := by
  simp [ofPoints]

@[simp] theorem count_ofPoints (points : List P) : (ofPoints points).count = points.length := by
  induction points using List.reverseRecOn with
  | nil => rfl
  | append_singleton points point ih => simp [ofPoints_concat, ih]

/-- A batch keeps the points of each key in the order in which they were added. -/
theorem points_ofPoints (points : List P) (key : String) :
    (ofPoints points).points key = points.filter fun p => DataPoint.key p = key := by
  induction points using List.reverseRecOn with
  | nil => exact points_empty key
  | append_singleton points point ih =>
      rw [ofPoints_concat, points_add, ih, List.filter_append]
      by_cases h : DataPoint.key point = key
      · simp [h]
      · simp [h]

/-- A chunk of points is found again under their keys. -/
theorem flatMap_points_ofPoints (chunks : List (List P)) (key : String) :
    (chunks.map ofPoints).flatMap (·.points key) =
      chunks.flatten.filter fun p => DataPoint.key p = key := by
  induction chunks with
  | nil => rfl
  | cons chunk rest ih =>
      rw [List.map_cons, List.flatMap_cons, ih, points_ofPoints, List.flatten_cons,
        List.filter_append]

end Payload

namespace Dispatcher

variable {d d' d'' : Dispatcher P}

section Frame

/-- Two states agree about all but the batch, what is handed over and what is reported. -/
structure SameControl (d d' : Dispatcher P) : Prop where
  config : d'.config = d.config
  channel : d'.channel = d.channel
  phase : d'.phase = d.phase
  takenOver : d'.takenOver = d.takenOver

omit [DataPoint P] in
theorem SameControl.trans (h : SameControl d d') (h' : SameControl d' d'') :
    SameControl d d'' where
  config := h'.config.trans h.config
  channel := h'.channel.trans h.channel
  phase := h'.phase.trans h.phase
  takenOver := h'.takenOver.trans h.takenOver

omit [DataPoint P] in
theorem sameControl_flush (d : Dispatcher P) : SameControl d d.flush := by
  unfold flush
  split
  · exact ⟨rfl, rfl, rfl, rfl⟩
  · exact ⟨rfl, rfl, rfl, rfl⟩

omit [DataPoint P] in
@[simp] theorem stats_flush (d : Dispatcher P) : d.flush.stats = d.stats := by
  unfold flush
  split <;> rfl

omit [DataPoint P] in
/-- After a flush there is nothing to flush. -/
theorem flush_flush (d : Dispatcher P) : d.flush.flush = d.flush := by
  by_cases h : d.batch.count = 0
  · have heq : d.flush = d := if_pos h
    rw [heq, heq]
  · have heq : d.flush = { d with
        batch := {}, storing := some d.batch, delivered := d.batch :: d.delivered } := if_neg h
    rw [heq]
    rfl

theorem takePoint_cases (d : Dispatcher P) (point : P) :
    (d.batch.count + 1 < d.config.batchSize.toNat ∧
      d.takePoint point = { d with batch := d.batch.add point }) ∨
    (d.config.batchSize.toNat ≤ d.batch.count + 1 ∧
      d.takePoint point = ({ d with batch := d.batch.add point } : Dispatcher P).flush) := by
  unfold takePoint
  by_cases h : d.config.batchSize.toNat ≤ d.batch.count + 1
  · exact Or.inr ⟨h, if_pos h⟩
  · exact Or.inl ⟨by omega, if_neg h⟩

theorem receivePoint_cases (d : Dispatcher P) (point : P) :
    d.receivePoint point = d.takePoint point ∨
      d.receivePoint point = (d.takePoint point).flush := by
  unfold receivePoint
  by_cases h : (d.takePoint point).config.flushMillis = 0
  · exact Or.inr (if_pos h)
  · exact Or.inl (if_neg h)

theorem sameControl_takePoint (d : Dispatcher P) (point : P) :
    SameControl d (d.takePoint point) := by
  have added : SameControl d { d with batch := d.batch.add point } := ⟨rfl, rfl, rfl, rfl⟩
  rcases d.takePoint_cases point with ⟨-, heq⟩ | ⟨-, heq⟩
  · rw [heq]
    exact added
  · rw [heq]
    exact added.trans (sameControl_flush _)

@[simp] theorem stats_takePoint (d : Dispatcher P) (point : P) :
    (d.takePoint point).stats = d.stats := by
  rcases d.takePoint_cases point with ⟨-, heq⟩ | ⟨-, heq⟩
  · rw [heq]
  · rw [heq, stats_flush]

theorem sameControl_receivePoint (d : Dispatcher P) (point : P) :
    SameControl d (d.receivePoint point) := by
  have taken := sameControl_takePoint d point
  rcases d.receivePoint_cases point with heq | heq
  · rw [heq]
    exact taken
  · rw [heq]
    exact taken.trans (sameControl_flush _)

@[simp] theorem stats_receivePoint (d : Dispatcher P) (point : P) :
    (d.receivePoint point).stats = d.stats := by
  rcases d.receivePoint_cases point with heq | heq
  · rw [heq, stats_takePoint]
  · rw [heq, stats_flush, stats_takePoint]

omit [DataPoint P] in
/-- The flush interval matters to a worker that waits for a command only. -/
theorem flushDue_cases (d : Dispatcher P) : d.flushDue = d ∨
    d.phase = .receiving ∧ d.storing = none ∧ d.flushDue = d.flush := by
  unfold flushDue
  split
  · rename_i h
    exact Or.inr ⟨h.1, Option.isNone_iff_eq_none.1 h.2, rfl⟩
  · exact Or.inl rfl

/-- A dispatcher takes a point while its channel is there and has room; otherwise it counts the
point as dropped. -/
theorem dispatch_cases (d : Dispatcher P) (point : P) :
    (d.phase ≠ .stopped ∧ d.channel.length < d.capacity ∧
      d.dispatch point = ({ d with channel := d.channel ++ [.store point] }, true)) ∨
    (∃ log, d.dispatch point =
      ({ d with stats := { d.stats with dropped := d.stats.dropped + 1 }, log }, false)) := by
  unfold dispatch
  split
  · rename_i h
    exact Or.inl ⟨h.1, of_decide_eq_true h.2, rfl⟩
  · refine Or.inr ?_
    dsimp only
    split
    · exact ⟨_, rfl⟩
    · exact ⟨_, rfl⟩

omit [DataPoint P] in
/-- A request gets into a channel with room, and needs none if the worker is gone. -/
theorem requestShutdown_cases (d : Dispatcher P) :
    (d.phase = .stopped ∧ d.requestShutdown = (d, .requested)) ∨
    (d.phase ≠ .stopped ∧ d.channel.length < d.capacity ∧
      d.requestShutdown = ({ d with channel := d.channel ++ [.shutdown] }, .requested)) ∨
    d.requestShutdown = (d, .full) := by
  unfold requestShutdown
  split
  · rename_i hphase
    exact Or.inl ⟨hphase, rfl⟩
  · rename_i hphase
    split
    · rename_i hroom
      exact Or.inr (Or.inl ⟨hphase, of_decide_eq_true hroom, rfl⟩)
    · exact Or.inr (Or.inr rfl)

omit [DataPoint P] in
theorem takeOver_cases (d : Dispatcher P) :
    (d.takenOver = true ∧ d.takeOver = (d, false)) ∨
    (d.takenOver = false ∧ d.takeOver = ({ d with takenOver := true }, true)) := by
  unfold takeOver
  cases h : d.takenOver with
  | true => exact Or.inl ⟨rfl, if_pos rfl⟩
  | false => exact Or.inr ⟨rfl, if_neg Bool.false_ne_true⟩

/-- An answer ends the call in progress and counts its points as stored, or the call as failed. -/
theorem storeReturned_cases {payload : Payload P} (storing : d.storing = some payload)
    (answer : Except StorageError Unit) :
    (answer.isOk = true ∧ d.storeReturned answer = { d with
      storing := none
      stats := { d.stats with stored := d.stats.stored + UInt64.ofNat payload.count } }) ∨
    (answer.isOk = false ∧ ∃ log, d.storeReturned answer = { d with
      storing := none
      stats := { d.stats with storageFailures := d.stats.storageFailures + 1 }
      log }) := by
  unfold storeReturned
  rw [storing]
  cases answer with
  | ok _ => exact Or.inl ⟨rfl, rfl⟩
  | error e => exact Or.inr ⟨rfl, _, rfl⟩

theorem sameControl_storeReturned (d : Dispatcher P) (answer : Except StorageError Unit) :
    SameControl d (d.storeReturned answer) := by
  unfold storeReturned
  split
  · exact ⟨rfl, rfl, rfl, rfl⟩
  · split
    · exact ⟨rfl, rfl, rfl, rfl⟩
    · exact ⟨rfl, rfl, rfl, rfl⟩

end Frame

section Chunks

/-- What was handed over are chunks of points of limited size, and the batch is made of some. -/
structure Holds (d : Dispatcher P) (chunks : List (List P)) (batched : List P) : Prop where
  delivered : d.delivered.reverse = chunks.map Payload.ofPoints
  batch : d.batch = Payload.ofPoints batched
  sized : ∀ c ∈ chunks, 1 ≤ c.length ∧ c.length ≤ d.config.batchSize.toNat

variable {chunks : List (List P)} {batched : List P}

theorem Holds.count_eq (h : d.Holds chunks batched) : d.batch.count = batched.length := by
  rw [h.batch, Payload.count_ofPoints]

theorem Holds.add (h : d.Holds chunks batched) (point : P) :
    Holds { d with batch := d.batch.add point } chunks (batched ++ [point]) where
  delivered := h.delivered
  batch := by rw [h.batch, Payload.ofPoints_concat]
  sized := h.sized

/-- A flush makes a chunk of the batch, unless it is empty. -/
theorem Holds.flush (h : d.Holds chunks batched)
    (hle : batched.length ≤ d.config.batchSize.toNat) :
    ∃ chunks', d.flush.Holds chunks' [] ∧ chunks'.flatten = chunks.flatten ++ batched := by
  have hcount := h.count_eq
  unfold Dispatcher.flush
  split
  · rename_i hzero
    have hnil : batched = [] := List.length_eq_zero_iff.1 (hcount ▸ hzero)
    subst hnil
    exact ⟨chunks, h, (List.append_nil _).symm⟩
  · rename_i hsome
    refine ⟨chunks ++ [batched], ⟨?_, rfl, ?_⟩, by simp⟩
    · simp [h.delivered, h.batch]
    · intro c hc
      rcases List.mem_append.1 hc with hc | hc
      · exact h.sized c hc
      · rw [List.mem_singleton.1 hc]
        exact ⟨by omega, hle⟩

/-- The points that were handed over or are in the batch, which is not full. -/
def Passed (d : Dispatcher P) (passed : List P) : Prop :=
  ∃ chunks batched, d.Holds chunks batched ∧ batched.length < d.config.batchSize.toNat ∧
    passed = chunks.flatten ++ batched

variable {passed : List P}

theorem Passed.congr (h : d.Passed passed) (hconfig : d'.config = d.config)
    (hbatch : d'.batch = d.batch) (hdelivered : d'.delivered = d.delivered) :
    d'.Passed passed := by
  obtain ⟨chunks, batched, holds, hlt, heq⟩ := h
  refine ⟨chunks, batched, ⟨?_, ?_, ?_⟩, hconfig ▸ hlt, heq⟩
  · rw [hdelivered]
    exact holds.delivered
  · rw [hbatch]
    exact holds.batch
  · rw [hconfig]
    exact holds.sized

omit [DataPoint P] in
theorem count_flush (d : Dispatcher P) : d.flush.batch.count = 0 := by
  unfold Dispatcher.flush
  split
  · assumption
  · rfl

theorem Passed.flush (h : d.Passed passed) :
    ∃ chunks, d.flush.Holds chunks [] ∧ passed = chunks.flatten := by
  obtain ⟨chunks, batched, holds, hlt, rfl⟩ := h
  obtain ⟨chunks', holds', hflat⟩ := holds.flush (Nat.le_of_lt hlt)
  exact ⟨chunks', holds', hflat.symm⟩

theorem Holds.passed_nil (h : d.Holds chunks []) (hbatch : 1 ≤ d.config.batchSize.toNat) :
    d.Passed chunks.flatten :=
  ⟨chunks, [], h, hbatch, (List.append_nil _).symm⟩

theorem Passed.passed_flush (h : d.Passed passed) : d.flush.Passed passed := by
  have hbatch : 1 ≤ d.config.batchSize.toNat := by
    obtain ⟨-, batched, -, hlt, -⟩ := h
    omega
  obtain ⟨chunks, holds, rfl⟩ := h.flush
  exact holds.passed_nil ((sameControl_flush d).config ▸ hbatch)

/-- A point that is taken follows those that have passed. -/
theorem Passed.takePoint (h : d.Passed passed) (point : P) :
    (d.takePoint point).Passed (passed ++ [point]) := by
  obtain ⟨chunks, batched, holds, hlt, rfl⟩ := h
  have added := holds.add point
  rcases d.takePoint_cases point with ⟨hroom, heq⟩ | ⟨-, heq⟩
  · rw [heq]
    refine ⟨chunks, batched ++ [point], added, ?_, List.append_assoc ..⟩
    rw [List.length_append, List.length_singleton, ← holds.count_eq]
    exact hroom
  · rw [heq]
    have hle : (batched ++ [point]).length ≤ d.config.batchSize.toNat := by
      rw [List.length_append, List.length_singleton]
      omega
    obtain ⟨chunks', holds', hflat⟩ := added.flush hle
    have hbatch : 1 ≤ d.config.batchSize.toNat := by omega
    have frame := sameControl_flush { d with batch := d.batch.add point }
    rw [List.append_assoc, ← hflat]
    exact holds'.passed_nil (frame.config ▸ hbatch)

theorem Passed.receivePoint (h : d.Passed passed) (point : P) :
    (d.receivePoint point).Passed (passed ++ [point]) := by
  rcases d.receivePoint_cases point with heq | heq
  · rw [heq]
    exact h.takePoint point
  · rw [heq]
    exact (h.takePoint point).passed_flush

end Chunks

section Storing

/-- What the storage has answered so far is what was handed over before the call in progress. -/
def Answered (d : Dispatcher P) (answered : List (Payload P)) : Prop :=
  answered ++ d.storing.toList = d.delivered.reverse

variable {answered : List (Payload P)}

omit [DataPoint P] in
theorem Answered.flush (h : d.Answered answered) (idle : d.storing = none) :
    d.flush.Answered answered := by
  unfold Answered at h
  rw [idle, Option.toList_none, List.append_nil] at h
  unfold Dispatcher.flush
  split
  · rw [Answered, idle, h, Option.toList_none, List.append_nil]
  · rw [Answered, List.reverse_cons, h]
    rfl

theorem Answered.takePoint (h : d.Answered answered) (idle : d.storing = none) (point : P) :
    (d.takePoint point).Answered answered := by
  rcases d.takePoint_cases point with ⟨-, heq⟩ | ⟨-, heq⟩
  · rw [heq]
    exact h
  · rw [heq]
    exact Answered.flush (d := { d with batch := d.batch.add point }) h idle

theorem Answered.receivePoint (h : d.Answered answered) (idle : d.storing = none) (point : P) :
    (d.receivePoint point).Answered answered := by
  have taken := h.takePoint idle point
  rcases d.receivePoint_cases point with heq | heq
  · rw [heq]
    exact taken
  · rw [heq]
    rcases d.takePoint_cases point with ⟨-, hkept⟩ | ⟨-, hflushed⟩
    · rw [hkept] at taken ⊢
      exact taken.flush idle
    · rw [hflushed] at taken ⊢
      rwa [flush_flush]

end Storing

end Dispatcher

end EndpointMonitor
