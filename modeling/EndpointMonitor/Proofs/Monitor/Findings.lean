import EndpointMonitor.Proofs.Monitor.Discoveries
import EndpointMonitor.Proofs.Monitor.Scans
import EndpointMonitor.Proofs.ResourceType.Support

/-!
# What holds of all that a scan finds

A scan makes every resource that it finds at a node, for a type of the graph. So what holds of each
resource that is made this way holds of all that are found, at whatever depth.
-/

namespace EndpointMonitor

variable {L σ : Type} {P : Resource L → Prop}

namespace Profile

open Conversation

variable [Location L] {inv : σ → Prop} {p : Profile L σ}

/-- A scan makes resources of the types of the graph only. -/
theorem descends_types (h : Consulted p.endpoint inv fun _ => True)
    (made : ∀ t ∈ p.types.types, ∀ parent node,
      Meets inv (resourceAt p parent t node) P fun _ => True) :
    Descends p inv (fun _ => True) (fun _ t => t ∈ p.types.types) (fun _ _ => True) fun _ => P where
  tooDeep := trivial
  roots _ ht := (List.mem_filter.1 ht).1
  nodes query := (h.nodes query).imp fun _ _ _ _ _ _ => trivial
  made ht _ := (made _ ht _ _).imp fun _ hr =>
    ⟨hr, fun u hu => ((p.types.mem_childTypes_iff _ u).1 hu).2.1⟩

/-- What holds of every resource that is made at a node holds of all that a scan finds. -/
theorem Finds.forall_mem {depth : Nat} {x : Exchange σ} {found : Found L}
    (finds : p.Finds depth x found) (h : Consulted p.endpoint inv fun _ => True)
    (made : ∀ t ∈ p.types.types, ∀ parent node,
      Meets inv (resourceAt p parent t node) P fun _ => True)
    (hx : inv x.peer) : ∀ r ∈ found.resources, P r := by
  have scanned := (descends_types h made).meets_scan depth
  exact ((meets_scanReady p h scanned x hx).2.1 _ finds).2 found rfl |>.forall_mem

end Profile

end EndpointMonitor
