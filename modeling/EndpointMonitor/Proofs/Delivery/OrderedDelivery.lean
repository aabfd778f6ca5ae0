import EndpointMonitor.Proofs.Delivery.Accounts

/-!
# Delivery in order

What is handed over is a prefix of what was accepted, cut into chunks of limited size. No more
points are behind than a buffer and a batch can hold, and the counters tell what became of the
rest.
-/

namespace EndpointMonitor

namespace Traffic

open TrafficAct

variable {P : Type} [DataPoint P] {config : DispatcherConfig} {s : Traffic P}
  {acts : List (TrafficAct P)}

/-- The points in the channel, or lost with it, are no more than fit into it. -/
theorem Sound.queued_add_lost_le (h : Sound config acts s) :
    s.core.queued.length + (lost acts s).length ≤ s.core.capacity := by
  have hchannel := h.orderly.channel_le
  have hpoints : s.core.queued.length ≤ s.core.channel.length := List.length_filterMap_le _ _
  by_cases hstopped : s.core.phase = .stopped
  · have hlost := h.progress.lost_le hstopped
    rw [h.orderly.stopped hstopped, List.length_nil] at hpoints
    rw [lost, if_pos hstopped]
    omega
  · rw [lost, if_neg hstopped, List.length_nil]
    omega

/-- Whatever the order in which producers, worker, storage and callers of shutdown take their
steps: the payloads handed over are the batches of chunks of points, no payload is empty or larger
than a batch, and together the chunks are the first of the accepted points. So each key has in
the payloads exactly its points among these, in their order. No more than a full buffer and a
full batch are accepted and not handed over, and the counters agree with what producers and
storage were told and have answered. -/
theorem delivered_in_order (hbuffer : 1 ≤ config.bufferSize.toNat)
    (hbatch : 1 ≤ config.batchSize.toNat) (run : Runs Step (start config) acts s) :
    (∃ chunks : List (List P),
      s.core.delivered.reverse = chunks.map Payload.ofPoints ∧
      (∀ payload ∈ s.core.delivered,
        1 ≤ payload.count ∧ payload.count ≤ config.batchSize.toNat) ∧
      chunks.flatten <+: accepted acts ∧
      (∀ key, s.core.delivered.reverse.flatMap (·.points key) =
        chunks.flatten.filter fun p => DataPoint.key p = key) ∧
      (accepted acts).length ≤
        chunks.flatten.length + (config.bufferSize.toNat + config.batchSize.toNat)) ∧
    (answers acts).map (·.1) ++ s.core.storing.toList = s.core.delivered.reverse ∧
    s.core.stats.dropped = UInt64.ofNat (refused acts) ∧
    s.core.stats.stored = UInt64.ofNat (storedTotal acts) ∧
    s.core.stats.storageFailures = UInt64.ofNat (failedTotal acts) := by
  have sound := sound_of_run hbatch run
  have ledger := sound.ledger
  refine ⟨?_, ledger.answered, ledger.dropped, ledger.stored, ledger.failures⟩
  obtain ⟨passed, ⟨chunks, batched, holds, hlt, rfl⟩, heq⟩ := sound.progress.flow
  have hsized := holds.sized
  rw [sound.config_eq] at hlt hsized
  have hqueued := sound.queued_add_lost_le
  rw [Dispatcher.capacity, sound.config_eq, Nat.max_eq_right hbuffer] at hqueued
  have hhand : s.hand.toList.length ≤ 1 := by
    cases s.hand <;> simp
  refine ⟨chunks, holds.delivered, fun payload hpayload => ?_, ?_, ?_, ?_⟩
  · rw [← List.mem_reverse, holds.delivered] at hpayload
    obtain ⟨c, hc, rfl⟩ := List.mem_map.1 hpayload
    rw [Payload.count_ofPoints]
    exact hsized c hc
  · rw [heq]
    simp only [List.append_assoc]
    exact List.prefix_append _ _
  · intro key
    rw [holds.delivered, Payload.flatMap_points_ofPoints]
  · rw [heq]
    simp only [List.length_append]
    omega

/-- A second point does not fit, and the first is stored. -/
theorem delivered_in_order_full :
    let config : DispatcherConfig := ⟨1, 1, 50, 0⟩
    let up : AvailPoint := ⟨"a", 1, .up⟩
    let acts : List (TrafficAct AvailPoint) :=
      [.offered up true, .offered up false, .received, .added,
        .answered (Payload.ofPoints [up]) (.ok ())]
    1 ≤ config.bufferSize.toNat ∧ 1 ≤ config.batchSize.toNat ∧
      ∃ s, Runs Step (start config) acts s ∧ accepted acts = [up] ∧
        s.core.stats.dropped = 1 ∧ s.core.stats.stored = 1 := by
  intro config up acts
  let full : Dispatcher AvailPoint := { config, channel := [.store up] }
  let dropped : Dispatcher AvailPoint := (full.dispatch up).1
  let taken : Dispatcher AvailPoint := { dropped with channel := [] }
  have offer : Step (start config) (.offered up true) { core := full } := .offer up
  have refuse : Step { core := full } (.offered up false) { core := dropped } := .offer up
  have receive : Step { core := dropped } .received { core := taken, hand := some up } :=
    .receive ⟨rfl, rfl⟩ rfl (.inl rfl)
  have add : Step { core := taken, hand := some up } .added { core := taken.receivePoint up } :=
    .add rfl (.inl ⟨rfl, rfl⟩)
  have answer : Step { core := taken.receivePoint up }
      (.answered (Payload.ofPoints [up]) (.ok ()))
      { core := (taken.receivePoint up).storeReturned (.ok ()) } := .answer (.ok ()) rfl
  have run : Runs Step (start config) acts _ :=
    ((((Runs.start.snoc offer).snoc refuse).snoc receive).snoc add).snoc answer
  obtain ⟨-, -, hdropped, hstored, -⟩ := delivered_in_order (by decide) (by decide) run
  exact ⟨by decide, by decide, _, run, rfl, hdropped, hstored⟩

end Traffic

end EndpointMonitor
