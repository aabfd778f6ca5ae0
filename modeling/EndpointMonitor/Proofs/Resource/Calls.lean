import EndpointMonitor.Proofs.Resource.Additions
import EndpointMonitor.Proofs.Resource.Removals

/-!
# Calls on a resource graph

Whatever is added to a graph and removed from it, and in whatever order, every stored node has
exactly one place, and every place is that of a stored node.
-/

namespace EndpointMonitor

variable {L : Type} [Location L]

/-- A call that may change the resource graph. -/
inductive GraphCall (L : Type) where
  | add (resource : Resource L)
  | remove (id : String)
  | removeCovered (query : L)

namespace ResourceGraph

variable {g : ResourceGraph L}

/-- The graph that a call leaves behind. -/
def call (g : ResourceGraph L) : GraphCall L → ResourceGraph L
  | .add r => (g.add r).graph
  | .remove id => (g.remove id).1
  | .removeCovered query => (g.removeCovered query).1

/-- The graph that calls leave behind, one after the other. -/
def callAll (g : ResourceGraph L) (calls : List (GraphCall L)) : ResourceGraph L :=
  calls.foldl call g

theorem Linked.call (h : Linked g) (c : GraphCall L) : Linked (g.call c) := by
  cases c with
  | add r => exact linked_add h r
  | remove id => exact h.linked_remove id
  | removeCovered query => exact h.linked_removeCovered query

theorem Linked.callAll (h : Linked g) (calls : List (GraphCall L)) :
    Linked (g.callAll calls) := by
  induction calls generalizing g with
  | nil => exact h
  | cons c calls ih => exact ih (h.call c)

/-- The graphs that calls on a new one lead to. -/
theorem linked_callAll (calls : List (GraphCall L)) :
    Linked (({} : ResourceGraph L).callAll calls) :=
  linked_empty.callAll calls

omit [Location L]

end ResourceGraph

end EndpointMonitor
