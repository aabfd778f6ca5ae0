import EndpointMonitor.Monitor.Scan
import EndpointMonitor.Proofs.Location.ManagementAddresses
import EndpointMonitor.Proofs.Location.ObjectNames
import EndpointMonitor.Proofs.Location.PlatformPaths
import EndpointMonitor.Proofs.Resource.Additions

/-!
# Identifiers tell nodes apart

Two nodes of one endpoint differ in the text of their locations only. Management addresses are
told apart by their texts whatever their segments are. Object names and platform paths are if
they were read, and the locations of found nodes are.
-/

namespace EndpointMonitor

namespace ResourceIdParts

/-- Within one endpoint the identifier tells the text of the location. -/
theorem location_eq_of_join_eq {feed endpoint s t : String}
    (h : join ⟨feed, endpoint, s⟩ = join ⟨feed, endpoint, t⟩) : s = t := by
  rw [← String.toList_inj] at h ⊢
  simpa [join] using h

end ResourceIdParts

namespace Location

variable {L : Type} [Location L]

/-- The identifier of the resource at a node of an endpoint. -/
def resourceId (feed endpoint : String) (node : L) : String :=
  ResourceIdParts.join ⟨feed, endpoint, text node⟩

/-- A scan identifies the resource it makes at a node in this way. -/
theorem id_outline {σ : Type} (p : Profile L σ) (parent : Option (Resource L))
    (t : ResourceType L) (node : L) :
    (p.outline parent t node).id = resourceId p.feed p.name node :=
  rfl

/-- Whether some text reads as the location. -/
def IsRead (a : L) : Prop :=
  ∃ s, read s = .ok a

/-- The resources of some nodes of an endpoint never get in each other's way. -/
structure KeptApart (feed endpoint : String) (among : L → Prop) : Prop where
  /-- Nodes with one identifier are one node. -/
  node_eq {a b : L} : among a → among b →
    resourceId feed endpoint a = resourceId feed endpoint b → a = b
  /-- Adding the resource of one node leaves what is stored for every other node. -/
  get?_add {a b : L} {g : ResourceGraph L} {r : Resource L} : among a → among b → b ≠ a →
    g.Linked → r.id = resourceId feed endpoint b →
    (g.add r).graph.get? (resourceId feed endpoint a) = g.get? (resourceId feed endpoint a)

/-- Nodes that the texts of their locations tell apart are kept apart. -/
theorem keptApart_of_text {among : L → Prop}
    (h : ∀ {a b : L}, among a → among b → text a = text b → a = b) (feed endpoint : String) :
    KeptApart feed endpoint among := by
  have node_eq : ∀ {a b : L}, among a → among b →
      resourceId feed endpoint a = resourceId feed endpoint b → a = b :=
    fun ha hb heq => h ha hb (ResourceIdParts.location_eq_of_join_eq heq)
  refine ⟨node_eq, fun ha hb hne hg hr => ?_⟩
  refine ResourceGraph.get?_add_of_ne hg fun heq => hne ?_
  exact node_eq hb ha (hr.symm.trans heq.symm)

/-- Whatever the feed and the endpoint are called, different management addresses, different
object names that were read and different platform paths that were read stand for different
resources. -/
theorem nodes_keptApart (feed endpoint : String) :
    KeptApart feed endpoint (fun _ : ManagementAddress => True) ∧
      KeptApart feed endpoint (IsRead (L := ObjectName)) ∧
      KeptApart feed endpoint (IsRead (L := PlatformPath)) := by
  refine ⟨keptApart_of_text (fun _ _ h => ManagementAddress.text_injective h) feed endpoint,
    keptApart_of_text ?_ feed endpoint, keptApart_of_text ?_ feed endpoint⟩
  · rintro a b ⟨s, ha⟩ ⟨t, hb⟩ h
    exact ObjectName.eq_of_text_eq ha hb h
  · rintro a b ⟨s, ha⟩ ⟨t, hb⟩ h
    exact PlatformPath.eq_of_text_eq ha hb h

end Location

end EndpointMonitor
