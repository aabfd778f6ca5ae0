import EndpointMonitor.Agent.Wiring
import EndpointMonitor.Proofs.Readings
import EndpointMonitor.Proofs.Settings.AcceptedSettings

/-!
# Names of the endpoints that are monitored

Accepted settings have no name for two of their endpoints, and an endpoint keeps its name when
it is planned. The host is planned besides them under a name of its own that the checks do not
know of, so this name may occur twice.
-/

namespace EndpointMonitor.Wiring

/-! ### The endpoints of a section -/

section Sections

variable {L : Type} {protocol : String} {checkUrl : String → Except LocationFault Unit}
  {minMillis : UInt64}

theorem name_of_plan {name : String} {waitFor : Except LocationFault (List L)}
    {sets : List (TypeSet L)} {use : Option (List String)} {p : EndpointPlan L}
    (h : (plan name waitFor sets use minMillis).result = .ok p) : p.name = name := by
  obtain ⟨types, -, h⟩ := except_bind_eq_ok_iff.1 h
  obtain ⟨ready, -, h⟩ := except_bind_eq_ok_iff.1 h
  cases h
  rfl

variable [Location L]

/-- A planned endpoint has the name that the settings give it. -/
theorem name_of_remotePlan {sets : List (TypeSet L)} {e : RemoteEndpointSetting}
    {p : EndpointPlan L} (h : (remotePlan checkUrl minMillis sets e).result = .ok p) :
    p.name = e.name := by
  unfold remotePlan at h
  split at h
  · cases h
  · exact name_of_plan h

/-- Whether an endpoint of a section can be monitored. -/
def isPlanned (L : Type) [Location L] (protocol : String)
    (checkUrl : String → Except LocationFault Unit) (minMillis : UInt64) (s : ProtocolSection)
    (e : RemoteEndpointSetting) : Bool :=
  (remotePlan (L := L) checkUrl minMillis (typeSets protocol s).result e).result.toBool

/-- The names of the endpoints of a section that are switched on and can be monitored. -/
def plannedNames (L : Type) [Location L] (protocol : String)
    (checkUrl : String → Except LocationFault Unit) (minMillis : UInt64) (s : ProtocolSection) :
    List String :=
  (s.enabledEndpoints.filter (isPlanned L protocol checkUrl minMillis s)).map (·.name)

theorem mem_plannedNames_iff {s : ProtocolSection} {name : String} :
    name ∈ plannedNames L protocol checkUrl minMillis s ↔ ∃ e ∈ s.enabledEndpoints,
      e.name = name ∧ isPlanned L protocol checkUrl minMillis s e = true := by
  simp only [plannedNames, List.mem_map, List.mem_filter]
  constructor
  · rintro ⟨e, ⟨he, planned⟩, hname⟩
    exact ⟨e, he, hname, planned⟩
  · rintro ⟨e, he, hname, planned⟩
    exact ⟨e, ⟨he, planned⟩, hname⟩

theorem names_remoteParts {wrap : Connection → EndpointPlan L → PlannedEndpoint}
    (hwrap : ∀ c p, (wrap c p).name = p.name) (s : ProtocolSection) :
    ((remoteParts protocol checkUrl wrap minMillis s).flatMap (·.result)).map (·.name) =
      plannedNames L protocol checkUrl minMillis s := by
  rw [remoteParts, List.flatMap_cons, List.nil_append, List.flatMap_map, plannedNames]
  induction s.enabledEndpoints with
  | nil => rfl
  | cons e rest ih =>
      rw [List.flatMap_cons, List.map_append, ih]
      cases hplan :
          (remotePlan (L := L) checkUrl minMillis (typeSets protocol s).result e).result with
      | error fault =>
          have planned : isPlanned L protocol checkUrl minMillis s e = false := by
            rw [isPlanned, hplan]
            rfl
          simp [keep, hplan, planned]
      | ok p =>
          have planned : isPlanned L protocol checkUrl minMillis s e = true := by
            rw [isPlanned, hplan]
            rfl
          simp [keep, hplan, planned, hwrap, name_of_remotePlan hplan]

end Sections

/-! ### All endpoints -/

/-- The types of the host never keep it from being monitored. -/
theorem names_host (s : Settings) :
    (host s).result.map (·.name) = if s.platform.enabled then [hostName] else [] := by
  unfold host
  split
  · rfl
  · rfl

/-- The names of the endpoints of all sections that can be monitored. -/
def remoteNames (s : Settings) : List String :=
  plannedNames ManagementAddress "dmr" ManagementApi.checkUrl s.minIntervalMillis s.dmr ++
    plannedNames ObjectName "jmx" Jolokia.checkUrl s.minIntervalMillis s.jmx

theorem names_ofSettings (s : Settings) : (ofSettings s).result.map (·.name) =
    remoteNames s ++ if s.platform.enabled then [hostName] else [] := by
  unfold ofSettings parts
  rw [List.flatMap_append, List.flatMap_append, List.map_append, List.map_append,
    names_remoteParts (fun _ _ => rfl), names_remoteParts (fun _ _ => rfl), List.flatMap_singleton,
    names_host, remoteNames]

theorem plannedNames_sublist (L : Type) [Location L] (protocol : String)
    (checkUrl : String → Except LocationFault Unit) (minMillis : UInt64) (s : ProtocolSection) :
    (plannedNames L protocol checkUrl minMillis s).Sublist (s.endpoints.map (·.name)) :=
  (List.filter_sublist.trans List.filter_sublist).map _

/-- The endpoints of accepted settings have different names, as far as they are configured. -/
theorem nodup_remoteNames {s : Settings} (h : s.Accepted) : (remoteNames s).Nodup := by
  have all := h.endpoints
  rw [List.map_append] at all
  exact all.sublist ((plannedNames_sublist ..).append (plannedNames_sublist ..))

/-- The host is monitored, and so is an endpoint that the settings give the name of the host. -/
def HostNameTaken (s : Settings) : Prop :=
  s.platform.enabled = true ∧
    ((∃ e ∈ s.dmr.enabledEndpoints, e.name = hostName ∧
        isPlanned ManagementAddress "dmr" ManagementApi.checkUrl s.minIntervalMillis s.dmr e) ∨
      ∃ e ∈ s.jmx.enabledEndpoints, e.name = hostName ∧
        isPlanned ObjectName "jmx" Jolokia.checkUrl s.minIntervalMillis s.jmx e)

theorem hostNameTaken_iff {s : Settings} :
    HostNameTaken s ↔ s.platform.enabled = true ∧ hostName ∈ remoteNames s := by
  rw [HostNameTaken, remoteNames, List.mem_append, mem_plannedNames_iff, mem_plannedNames_iff]

/-- Under accepted settings, the endpoints that are monitored have different names exactly if
none of them takes the name of the host. -/
theorem names_nodup_iff {s : Settings} (h : s.validate = .ok s) :
    ((ofSettings s).result.map (·.name)).Nodup ↔ ¬ HostNameTaken s := by
  have remote := nodup_remoteNames (Settings.validate_eq_ok_iff.1 h)
  rw [names_ofSettings, hostNameTaken_iff]
  cases s.platform.enabled with
  | false => simpa using remote
  | true =>
      rw [if_pos rfl, ← List.concat_eq_append, List.nodup_concat]
      simp [remote]

section Names

/-- Settings with a management endpoint and a Jolokia endpoint, both on this machine. -/
def besideHost (dmr jmx : String) : Settings where
  dmr := { endpoints := [{ name := dmr, url := "http://[::1]:9990" }] }
  jmx := { endpoints := [{ name := jmx, url := "http://[::1]:8778/jolokia" }] }

theorem names_nodup_iff_threeEndpoints :
    let s := besideHost "platform" "Broker"
    s.validate = .ok s ∧ ¬ HostNameTaken s ∧ ((ofSettings s).result.map (·.name)).Nodup ∧
      (ofSettings s).result.map (·.name) = ["platform", "Broker", "Platform"] := by
  intro s
  have accepted : s.validate = .ok s := by decide +kernel
  have names : (ofSettings s).result.map (·.name) = ["platform", "Broker", "Platform"] := by
    decide +kernel
  have free : ¬ HostNameTaken s := by
    unfold HostNameTaken
    decide +kernel
  exact ⟨accepted, free, (names_nodup_iff accepted).2 free, names⟩

/-- Settings are accepted with an endpoint that has the name of the host, and both are
monitored. -/
theorem not_names_nodup_hostName :
    let s := besideHost "Platform" "Broker"
    s.validate = .ok s ∧
      (ofSettings s).result.map (·.name) = ["Platform", "Broker", "Platform"] ∧
      ¬ ((ofSettings s).result.map (·.name)).Nodup := by
  intro s
  have names : (ofSettings s).result.map (·.name) = ["Platform", "Broker", "Platform"] := by
    decide +kernel
  refine ⟨by decide +kernel, names, ?_⟩
  rw [names]
  decide

end Names

end EndpointMonitor.Wiring
