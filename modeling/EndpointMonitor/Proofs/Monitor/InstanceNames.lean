import EndpointMonitor.Location.ManagementAddress
import EndpointMonitor.Proofs.Monitor.Scans
import EndpointMonitor.Proofs.Schedule.Growth
import EndpointMonitor.Proofs.Settings.MeasurementNames

/-!
# Identifiers of the measurements of a resource

The identifier of a measurement has the identifier of its resource and the name of its type. So the
measurements of a resource are told apart exactly by their names, and a queue keeps one of those
with the same name.
-/

namespace EndpointMonitor

variable {L : Type} [Location L]

/-- The measurements of the resource are told apart, and each of them is scheduled with it. -/
structure Resource.KeptApart (r : Resource L) : Prop where
  metricIds : (r.metrics.map (·.id)).Nodup
  availIds : (r.avails.map (·.id)).Nodup
  metricsScheduled : r.EachScheduled MetricDetail
  availsScheduled : r.EachScheduled AvailDetail

omit [Location L] in
theorem Resource.keptApart_iff {r : Resource L} :
    r.KeptApart ↔ (r.metrics.map (·.id)).Nodup ∧ (r.avails.map (·.id)).Nodup :=
  ⟨fun h => ⟨h.metricIds, h.availIds⟩,
    fun h => ⟨h.1, h.2, Resource.eachScheduled_iff.2 h.1, Resource.eachScheduled_iff.2 h.2⟩⟩

theorem metricInstanceId_injective (resource : String) :
    Function.Injective (metricInstanceId resource) := fun _ _ h => by
  simpa [metricInstanceId, ← String.toList_inj] using h

theorem availInstanceId_injective (resource : String) :
    Function.Injective (availInstanceId resource) := fun _ _ h => by
  simpa [availInstanceId, ← String.toList_inj] using h

section Lists

variable {D T : Type} {name : T → String} {ts : List T}
  {found : List (Option (MeasurementInstance L D))}

omit [Location L] in
theorem ids_sublist_of_forall₂
    (h : List.Forall₂ (fun t o => ∀ m, o = some m → m.id = name t) ts found) :
    ((found.filterMap fun o => o).map (·.id)).Sublist (ts.map name) := by
  induction h with
  | nil => exact List.Sublist.refl _
  | @cons t o _ _ ho _ ih =>
      cases o with
      | none => exact ih.cons _
      | some m =>
          simp only [List.filterMap_cons, List.map_cons, ho m rfl]
          exact ih.cons_cons _

omit [Location L] in
theorem ids_eq_of_forall₂
    (h : List.Forall₂ (fun t o => ∃ m, o = some m ∧ m.id = name t) ts found) :
    (found.filterMap fun o => o).map (·.id) = ts.map name := by
  induction h with
  | nil => rfl
  | cons ho _ ih =>
      obtain ⟨m, rfl, hid⟩ := ho
      simp only [List.filterMap_cons, List.map_cons, hid, ih]

end Lists

namespace Profile

open Conversation

variable {σ D : Type} (p : Profile L σ)

/-- The identifiers of the measurements at a resource are made of names of collected ones. -/
theorem meets_instances_ids (r : Resource L) (id : String → String → String)
    (ts : List (MeasurementType L D)) :
    Meets (fun _ => True) (instances p r id ts) (fun ms =>
      (ms.map (·.id)).Sublist ((MeasurementType.collectedNames ts).map (id r.id)))
      (fun _ => True) := by
  have one : ∀ t ∈ ts.filter (·.enabled), Meets (fun _ => True) (instance? p r id t)
      (fun found => ∀ m, found = some m → m.id = id r.id t.name) (fun _ => True) := by
    intro t _
    refine (meets_instance? p r id t (meets_ask_any _ _ trivial)).imp fun found h m hm => ?_
    rw [(h m hm).1]
  refine (meets_each_forall₂ one).bind fun found hfound => meets_pure ?_
  rw [MeasurementType.collectedNames, List.map_map]
  exact ids_sublist_of_forall₂ hfound

/-- The same for all measurements of a resource. -/
theorem meets_resourceAt_ids (parent : Option (Resource L)) (t : ResourceType L) (node : L) :
    Meets (fun _ => True) (resourceAt p parent t node) (fun r =>
      (r.metrics.map (·.id)).Sublist
        ((MeasurementType.collectedNames t.metrics).map (metricInstanceId r.id)) ∧
      (r.avails.map (·.id)).Sublist
        ((MeasurementType.collectedNames t.avails).map (availInstanceId r.id)))
      (fun _ => True) :=
  meets_resourceAt_of p (attended_any trivial) (meets_instances_ids p _ _ _)
    (meets_instances_ids p _ _ _) fun _ _ _ hmetrics havails => ⟨hmetrics, havails⟩

/-- A type whose names tell its measurements apart makes resources that are scheduled completely. -/
theorem keptApart_resourceAt {parent : Option (Resource L)} {t : ResourceType L} {node : L}
    (h : t.NamesTell) {x x' : Exchange σ} {r : Resource L}
    (hrun : (p.resourceAt parent t node).run x = (.ok r, x')) : r.KeptApart := by
  have hids := (meets_resourceAt_ids p parent t node x trivial).2.1 r (by rw [hrun])
  exact Resource.keptApart_iff.2
    ⟨hids.1.nodup (h.metrics.map (metricInstanceId_injective r.id)),
      hids.2.nodup (h.avails.map (availInstanceId_injective r.id))⟩

end Profile

/-- An endpoint that has every attribute. -/
def Endpoint.complete (L : Type) : Endpoint L Unit where
  protocol := "complete"
  connect s := (.answer (), s)
  nodes _ s := (.answer [], s)
  hasAttribute _ s := (.answer true, s)
  read _ s := (.answer (.multiple []), s)

namespace Profile

open Conversation

variable {D : Type} {p : Profile L Unit}

/-- There all collected measurements are found. -/
theorem meets_instances_complete (h : p.endpoint = Endpoint.complete L) (r : Resource L)
    (id : String → String → String) (ts : List (MeasurementType L D)) :
    Meets (fun _ => True) (instances p r id ts) (fun ms =>
      ms.map (·.id) = (MeasurementType.collectedNames ts).map (id r.id)) (fun _ => False) := by
  have one : ∀ t ∈ ts.filter (·.enabled), Meets (fun _ => True) (instance? p r id t)
      (fun found => ∃ m, found = some m ∧ m.id = id r.id t.name) (fun _ => False) := by
    intro t _
    have answered : Meets (fun _ => True)
        (Conversation.hasAttribute p.endpoint (t.location.absolutize r.location))
        (fun reply => reply = .ok true) (fun _ => False) := by
      rw [h]
      refine meets_ask fun s _ => ⟨trivial, fun a ha => ?_, fun b hb => ?_⟩
      · cases ha
        rfl
      · cases hb
    refine answered.bind fun reply hreply => ?_
    subst hreply
    exact meets_pure ⟨_, rfl, rfl⟩
  refine (meets_each_forall₂ one).bind fun found hfound => meets_pure ?_
  rw [MeasurementType.collectedNames, List.map_map]
  exact ids_eq_of_forall₂ hfound

omit [Location L] in
theorem attended_complete (h : p.endpoint = Endpoint.complete L) :
    Attended p.endpoint (fun _ => True) (fun _ => False) := by
  rw [h]
  constructor
  · intro a
    refine meets_ask fun s _ => ⟨trivial, fun _ _ => trivial, fun b hb => ?_⟩
    cases hb
  · intro a
    refine meets_ask fun s _ => ⟨trivial, fun _ _ => trivial, fun b hb => ?_⟩
    cases hb

/-- There every type has resources with all its collected measurements. -/
theorem exists_resourceAt_complete (h : p.endpoint = Endpoint.complete L)
    (parent : Option (Resource L)) (t : ResourceType L) (node : L) (x : Exchange Unit) :
    ∃ r x', (p.resourceAt parent t node).run x = (.ok r, x') ∧
      r.metrics.map (·.id) =
        (MeasurementType.collectedNames t.metrics).map (metricInstanceId r.id) ∧
      r.avails.map (·.id) =
        (MeasurementType.collectedNames t.avails).map (availInstanceId r.id) := by
  have meets : Meets (fun _ => True) (resourceAt p parent t node) (fun r =>
      r.metrics.map (·.id) =
        (MeasurementType.collectedNames t.metrics).map (metricInstanceId r.id) ∧
      r.avails.map (·.id) =
        (MeasurementType.collectedNames t.avails).map (availInstanceId r.id))
      (fun _ => False) :=
    meets_resourceAt_of p (attended_complete h) (meets_instances_complete h _ _ _)
      (meets_instances_complete h _ _ _) fun _ _ _ hmetrics havails => ⟨hmetrics, havails⟩
  obtain ⟨-, hok, hcut⟩ := meets x trivial
  rcases hrun : (p.resourceAt parent t node).run x with ⟨b | r, x'⟩
  · exact (hcut b (by rw [hrun])).elim
  · exact ⟨r, x', rfl, hok r (by rw [hrun])⟩

end Profile

namespace TypeGraph

variable {settings : List TypeSetSetting} {sets : List (TypeSet L)} {use : Option (List String)}
  {minMillis : UInt64} {g : TypeGraph L}

/-- Resources of the types of a graph are scheduled completely, whatever an endpoint answers,
exactly if the types tell their measurements apart. -/
theorem keptApart_iff_namesTell :
    (∀ (σ : Type) (p : Profile L σ), p.types = g → ∀ parent, ∀ t ∈ g.types, ∀ node x r x',
      (p.resourceAt parent t node).run x = (.ok r, x') → r.KeptApart) ↔
    ∀ t ∈ g.types, t.NamesTell := by
  constructor
  · intro h t ht
    let p : Profile L Unit := ⟨"feed", "local", [], g, Endpoint.complete L⟩
    obtain ⟨r, x', hrun, hmetrics, havails⟩ :=
      Profile.exists_resourceAt_complete (p := p) rfl none t Location.root { peer := () }
    have hapart := h Unit p rfl none t ht _ _ r x' hrun
    have metrics := hapart.metricIds
    have avails := hapart.availIds
    rw [hmetrics] at metrics
    rw [havails] at avails
    exact ⟨metrics.of_map _, avails.of_map _⟩
  · intro h σ p _ parent t ht node x r x' hrun
    exact Profile.keptApart_resourceAt p (h t ht) hrun

/-- Whatever a type graph is made of and whatever an endpoint answers, the measurements of the
resources are told apart and scheduled, exactly if no type that is kept has two collected
measurements of one kind with the same name. -/
theorem instances_keptApart_iff (hread : settings.mapM TypeSetSetting.toTypeSet = .ok sets)
    (hbuild : build sets use minMillis = .ok g) :
    (∀ (σ : Type) (p : Profile L σ), p.types = g → ∀ parent, ∀ t ∈ g.types, ∀ node x r x',
      (p.resourceAt parent t node).run x = (.ok r, x') → r.KeptApart) ↔
    ∀ s ∈ settings, s.enabled = true → (∀ names, use = some names → s.name ∈ names) →
      ∀ t ∈ s.resourceTypes, (g.get? t.name).isSome = true → t.NamesTell minMillis := by
  rw [keptApart_iff_namesTell, namesTell_iff hread hbuild]

end TypeGraph

section Servers

/-- A configured server with two metrics. -/
def serverSetting (first second : String) : TypeSetSetting where
  name := "servers"
  resourceTypes := [{
    name := "Server"
    location := "/"
    nameTemplate := "Server"
    metrics := [{ name := first, reference := "load", interval := 5 },
      { name := second, reference := "load5", interval := 30 }] }]

/-- The type that is read of it. -/
def serverType (first second : String) : ResourceType ManagementAddress where
  name := "Server"
  location := ⟨[]⟩
  nameTemplate := "Server"
  metrics := [
    { name := first, location := ⟨⟨[]⟩, "load", none⟩, interval := ⟨5, .seconds⟩
      detail := ⟨.gauge, "none"⟩ },
    { name := second, location := ⟨⟨[]⟩, "load5", none⟩, interval := ⟨30, .seconds⟩
      detail := ⟨.gauge, "none"⟩ }]

/-- An endpoint with such servers, which has all their attributes. -/
def serverProfile (first second : String) : Profile ManagementAddress Unit where
  feed := "feed"
  name := "local"
  types := ⟨[serverType first second]⟩
  endpoint := Endpoint.complete ManagementAddress

theorem toTypeSets_serverSetting (first second : String) :
    [serverSetting first second].mapM TypeSetSetting.toTypeSet =
      .ok [(⟨"servers", true, [serverType first second]⟩ : TypeSet ManagementAddress)] := by
  have location : readOwned (L := ManagementAddress) "Server" "/" = .ok ⟨[]⟩ := rfl
  have load : ∀ name, readAttribute (L := ManagementAddress) name "" "load" =
      .ok ⟨⟨[]⟩, "load", none⟩ := fun _ => rfl
  have load5 : ∀ name, readAttribute (L := ManagementAddress) name "" "load5" =
      .ok ⟨⟨[]⟩, "load5", none⟩ := fun _ => rfl
  simp [serverSetting, serverType, TypeSetSetting.toTypeSet, ResourceTypeSetting.toType,
    MetricSetting.toType, location, load, load5, Except.map, bind, Except.bind, pure, Except.pure]

theorem build_serverType (first second : String) :
    TypeGraph.build [⟨"servers", true, [serverType first second]⟩] none 0 =
      .ok ⟨[serverType first second]⟩ := by
  have sorted : TypeGraph.candidates 0 (Declaration.ofSets
      [⟨"servers", true, [serverType first second]⟩] none) = [serverType first second] :=
    List.mergeSort_singleton _
  rw [TypeGraph.build, sorted]
  rfl

/-- Two metrics of different names. -/
theorem TypeGraph.instances_keptApart_iff_twoNames :
    [serverSetting "Load" "Used"].mapM TypeSetSetting.toTypeSet =
        .ok [(⟨"servers", true, [serverType "Load" "Used"]⟩ : TypeSet ManagementAddress)] ∧
      build [⟨"servers", true, [serverType "Load" "Used"]⟩] none 0 =
        .ok ⟨[serverType "Load" "Used"]⟩ ∧
      ∀ (σ : Type) (p : Profile ManagementAddress σ), p.types = ⟨[serverType "Load" "Used"]⟩ →
        ∀ parent, ∀ t ∈ [serverType "Load" "Used"], ∀ node x r x',
          (p.resourceAt parent t node).run x = (.ok r, x') → r.KeptApart := by
  have hread := toTypeSets_serverSetting "Load" "Used"
  have hbuild := build_serverType "Load" "Used"
  refine ⟨hread, hbuild, (instances_keptApart_iff hread hbuild).2 ?_⟩
  intro s hs _ _ t ht _
  rw [List.mem_singleton.1 hs] at ht
  rw [List.mem_singleton.1 ht]
  exact ⟨by decide, by decide⟩

/-- Two metrics of one name: the second one takes the place of the first. -/
theorem Resource.not_keptApart_sameName :
    [serverSetting "Load" "Load"].mapM TypeSetSetting.toTypeSet =
        .ok [(⟨"servers", true, [serverType "Load" "Load"]⟩ : TypeSet ManagementAddress)] ∧
      TypeGraph.build [⟨"servers", true, [serverType "Load" "Load"]⟩] none 0 =
        .ok ⟨[serverType "Load" "Load"]⟩ ∧
      ∃ r x', ((serverProfile "Load" "Load").resourceAt none (serverType "Load" "Load") ⟨[]⟩).run
          { peer := () } = (.ok r, x') ∧
        r.metrics.length = 2 ∧
        (({} : CollectionQueue ManagementAddress MetricDetail).schedule
          (QueueEntry.ofResource 0 r)).size = 1 ∧ ¬ r.KeptApart := by
  refine ⟨toTypeSets_serverSetting _ _, build_serverType _ _, ?_⟩
  obtain ⟨r, x', hrun, hmetrics, -⟩ := Profile.exists_resourceAt_complete
    (p := serverProfile "Load" "Load") rfl none (serverType "Load" "Load") ⟨[]⟩ { peer := () }
  have hids : r.metrics.map (·.id) = [metricInstanceId r.id "Load", metricInstanceId r.id "Load"] :=
    hmetrics
  have hkeys : (QueueEntry.ofResource (D := MetricDetail) 0 r).map (·.id) =
      (r.metrics.map (·.id)).map (MeasurementKey.mk r.id) :=
    ids_ofResource 0 r
  refine ⟨r, x', hrun, by simpa using congrArg List.length hids, ?_, fun h => ?_⟩
  · rw [CollectionQueue.inStep_empty.size_schedule (by simp [CollectionQueue.toList]), hkeys, hids]
    simp [CollectionQueue.size]
  · have hnodup := h.metricIds
    rw [hids] at hnodup
    simp at hnodup

end Servers

end EndpointMonitor
