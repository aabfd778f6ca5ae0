import EndpointMonitor.Resource.Graph
import EndpointMonitor.Monitor.Scan

/-!
# Patching the resource graph

What a scan has found is put into the resource graph. Resources that were not found are
removed, unless part of the scan failed: then they may still be there.
-/

namespace EndpointMonitor

/-- The difference a scan makes to the stored resources. -/
structure InventoryChange (L : Type) where
  added : List (Resource L) := []
  modified : List (Resource L) := []
  removed : List (Resource L) := []
  deriving Inhabited

namespace InventoryChange

variable {L : Type}

/-- Whether nothing has changed. -/
def isEmpty (c : InventoryChange L) : Bool :=
  c.added.isEmpty && c.modified.isEmpty && c.removed.isEmpty

end InventoryChange

/-- A resource graph with the difference made to it and the events of its observers. -/
structure Patch (L : Type) where
  graph : ResourceGraph L
  change : InventoryChange L := {}
  events : List (GraphEvent L) := []
  deriving Inhabited

namespace Patch

variable {L : Type} [Location L]

/-- Note a resource that was added to the graph. -/
def noteOutcome (c : InventoryChange L) (r : Resource L) : AddOutcome → InventoryChange L
  | .added => { c with added := c.added ++ [r] }
  | .modified => { c with modified := c.modified ++ [r] }
  | .unchanged => c

/-- Add a resource that was found. -/
def add (p : Patch L) (r : Resource L) : Patch L :=
  let a := p.graph.add r
  ⟨a.graph, noteOutcome p.change r a.outcome, p.events ++ a.events⟩

/-- Remove stored resources with everything below them. -/
def remove (p : Patch L) (ids : List String) : Patch L :=
  let (graph, removed) := p.graph.removeAll ids
  ⟨graph, { p.change with removed := p.change.removed ++ removed },
    p.events ++ removed.map .removed⟩

/-- The stored resources that are not among those found. -/
def stale (g : ResourceGraph L) (found : List (Resource L)) : List String :=
  let ids := found.map (·.id)
  (g.depthFirst.filter fun r => !ids.contains r.id).map (·.id)

/-- Put what a scan has found into the graph. -/
def ofFound (g : ResourceGraph L) (found : Found L) : Patch L :=
  let p := found.resources.foldl add { graph := g }
  if found.errors = 0 then p.remove (stale p.graph found.resources) else p

end Patch

end EndpointMonitor
