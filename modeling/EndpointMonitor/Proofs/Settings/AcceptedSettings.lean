import EndpointMonitor.Proofs.ResourceType.KeptTypes
import EndpointMonitor.Settings.Validation

/-!
# Settings that are accepted

The checks of settings are a list of alternatives for a fault. Settings are accepted exactly if
none of the alternatives is taken, which is said here field by field.
-/

namespace EndpointMonitor

/-- What the checks ask of the section of a protocol. -/
structure ProtocolSection.Accepted (s : ProtocolSection) : Prop where
  typeSets : (s.typeSets.map (·.name)).Nodup
  named : ∀ e ∈ s.endpoints, Text.isBlankText e.name = false
  patient : ∀ e ∈ s.endpoints, e.timeoutSecs ≠ 0

/-- What the checks ask of settings. -/
structure Settings.Accepted (s : Settings) : Prop where
  feed : Text.isBlankText s.agent.feedId = false
  minInterval : s.agent.minCollectionIntervalSecs ≠ 0
  pollInterval : s.agent.pollIntervalMillis ≠ 0
  metricSizes : s.storage.metricBufferSize ≠ 0 ∧ s.storage.metricBatchSize ≠ 0
  availSizes : s.storage.availBufferSize ≠ 0 ∧ s.storage.availBatchSize ≠ 0
  reports : s.diagnostics.enabled = true → s.diagnostics.reportIntervalSecs ≠ 0
  platform : s.platform.enabled = true → s.platform.intervalSecs ≠ 0
  dmr : s.dmr.Accepted
  jmx : s.jmx.Accepted
  endpoints : ((s.dmr.endpoints ++ s.jmx.endpoints).map (·.name)).Nodup

theorem firstRepeated?_nil_eq_none_iff {names : List String} :
    firstRepeated? [] names = none ↔ names.Nodup := by
  simp [firstRepeated?_eq_none_iff]

theorem endpointFault?_eq_none_iff {protocol : String} {e : RemoteEndpointSetting} :
    endpointFault? protocol e = none ↔ Text.isBlankText e.name = false ∧ e.timeoutSecs ≠ 0 := by
  unfold endpointFault?
  cases Text.isBlankText e.name <;> simp

theorem ProtocolSection.fault?_eq_none_iff {protocol : String} {s : ProtocolSection} :
    s.fault? protocol = none ↔ s.Accepted := by
  unfold ProtocolSection.fault?
  simp only [Option.orElse_eq_none, Option.map_eq_none_iff, firstRepeated?_nil_eq_none_iff,
    List.findSome?_eq_none_iff, endpointFault?_eq_none_iff]
  constructor
  · rintro ⟨typeSets, h⟩
    exact ⟨typeSets, fun e he => (h e he).1, fun e he => (h e he).2⟩
  · intro h
    exact ⟨h.typeSets, fun e he => ⟨h.named e he, h.patient e he⟩⟩

namespace Settings

theorem sizeFault?_eq_none_iff {name : String} {size : UInt64} :
    sizeFault? name size = none ↔ size ≠ 0 := by
  simp [sizeFault?]

theorem fault?_eq_none_iff {s : Settings} : s.fault? = none ↔ s.Accepted := by
  unfold fault?
  simp only [Option.orElse_eq_none, Option.map_eq_none_iff, firstRepeated?_nil_eq_none_iff,
    ProtocolSection.fault?_eq_none_iff, sizeFault?_eq_none_iff, ite_eq_right_iff,
    reduceCtorEq, imp_false, Bool.not_eq_true, Bool.and_eq_false_imp, decide_eq_false_iff_not]
  constructor
  · rintro ⟨feed, min, poll, metricBuffer, metricBatch, availBuffer, availBatch, reports,
      platform, dmr, jmx, endpoints⟩
    exact ⟨feed, min, poll, ⟨metricBuffer, metricBatch⟩, ⟨availBuffer, availBatch⟩, reports,
      platform, dmr, jmx, endpoints⟩
  · intro h
    exact ⟨h.feed, h.minInterval, h.pollInterval, h.metricSizes.1, h.metricSizes.2,
      h.availSizes.1, h.availSizes.2, h.reports, h.platform, h.dmr, h.jmx, h.endpoints⟩

/-- Settings are accepted exactly if every check passes. -/
theorem validate_eq_ok_iff {s : Settings} : s.validate = .ok s ↔ s.Accepted := by
  rw [← fault?_eq_none_iff, validate]
  cases s.fault? <;> simp

end Settings

end EndpointMonitor
