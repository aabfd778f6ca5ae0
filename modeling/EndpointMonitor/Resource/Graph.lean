import EndpointMonitor.Resource.Basic
import Std.Data.TreeMap
import Std.Data.TreeSet

/-!
# The resource graph of an endpoint

Resources are nodes; each hangs below the node of its parent, or stands at the top if that
parent is not stored. Replacing a resource keeps what hangs below it, and removing one removes
that as well. Every change is an event, in the order in which observers hear of it.
-/

namespace EndpointMonitor

/-- A change of the resource graph. -/
inductive GraphEvent (L : Type) where
  | added (resource : Resource L)
  | modified (resource : Resource L)
  | removed (resource : Resource L)
  deriving Inhabited

/-- What adding a resource has done. -/
inductive AddOutcome where
  | added
  | modified
  | unchanged
  deriving DecidableEq, Inhabited

/-- A stored resource and the identifiers of the resources below it. -/
structure GraphNode (L : Type) where
  resource : Resource L
  children : Std.TreeSet String := ∅
  deriving Inhabited

/-- The resources of an endpoint. -/
structure ResourceGraph (L : Type) where
  nodes : Std.TreeMap String (GraphNode L) := ∅
  roots : Std.TreeSet String := ∅
  deriving Inhabited

namespace ResourceGraph

variable {L : Type}

/-- The number of stored resources. -/
def size (g : ResourceGraph L) : Nat :=
  g.nodes.size

/-- The stored resource of an identifier. -/
def get? (g : ResourceGraph L) (id : String) : Option (Resource L) :=
  g.nodes[id]?.map (·.resource)

/-- Change the children of a node, if it is stored. -/
def updateChildren (g : ResourceGraph L) (id : String)
    (change : Std.TreeSet String → Std.TreeSet String) : ResourceGraph L :=
  match g.nodes[id]? with
  | some node =>
    { g with nodes := g.nodes.insert id { node with children := change node.children } }
  | none => g

/-- Hang an identifier below its parent, or put it at the top if that is not stored. -/
def attach (g : ResourceGraph L) (r : Resource L) : ResourceGraph L :=
  match r.parent.filter g.nodes.contains with
  | some parent => g.updateChildren parent (·.insert r.id)
  | none => { g with roots := g.roots.insert r.id }

/-- Take an identifier from its place. -/
def detach (g : ResourceGraph L) (r : Resource L) : ResourceGraph L :=
  let g := { g with roots := g.roots.erase r.id }
  match r.parent with
  | some parent => g.updateChildren parent (·.erase r.id)
  | none => g

/-- Put a resource into its place with the children it has. -/
def place (g : ResourceGraph L) (r : Resource L) (children : Std.TreeSet String) :
    ResourceGraph L :=
  let g := g.attach r
  { g with nodes := g.nodes.insert r.id ⟨r, children⟩ }

/-- What adding a resource leads to. -/
structure Addition (L : Type) where
  graph : ResourceGraph L
  outcome : AddOutcome
  events : List (GraphEvent L)

/-- Add a resource, or replace the one of its identifier unless the two are alike. -/
def add [Location L] (g : ResourceGraph L) (r : Resource L) : Addition L :=
  match g.nodes[r.id]? with
  | none => ⟨g.place r ∅, .added, [.added r]⟩
  | some old =>
    if old.resource.isLike r then ⟨g, .unchanged, []⟩
    else
      let rest := { g with nodes := g.nodes.erase r.id }
      ⟨(rest.detach old.resource).place r old.children, .modified, [.modified r]⟩

/-- The resources from an identifier down, each before what is below it. A path down the graph
visits no node twice, so `depth` need not exceed the number of nodes. -/
def subtree (g : ResourceGraph L) : Nat → String → List (Resource L)
  | 0, _ => []
  | depth + 1, id =>
    match g.nodes[id]? with
    | none => []
    | some node => node.resource :: node.children.toList.flatMap (subtree g depth)

/-- All resources from the top down, each before what is below it. -/
def depthFirst (g : ResourceGraph L) : List (Resource L) :=
  g.roots.toList.flatMap (g.subtree g.size)

/-- The resources at the top. -/
def rootResources (g : ResourceGraph L) : List (Resource L) :=
  g.roots.toList.filterMap g.get?

/-- The resources directly below another. -/
def children (g : ResourceGraph L) (id : String) : List (Resource L) :=
  match g.nodes[id]? with
  | none => []
  | some node => node.children.toList.filterMap g.get?

/-- The resources that a query addresses. -/
def find [Location L] (g : ResourceGraph L) (query : L) : List (Resource L) :=
  g.depthFirst.filter fun r => Location.covers query r.location

/-- Remove a resource and everything below it, what is below first. -/
def remove (g : ResourceGraph L) (id : String) : ResourceGraph L × List (Resource L) :=
  match g.get? id with
  | none => (g, [])
  | some r =>
    let g := g.detach r
    let removed := (g.subtree g.size id).reverse
    ({ g with nodes := removed.foldl (fun nodes s => nodes.erase s.id) g.nodes }, removed)

/-- Remove the resources of some identifiers, one after the other. -/
def removeAll (g : ResourceGraph L) (ids : List String) : ResourceGraph L × List (Resource L) :=
  ids.foldl (fun (g, removed) id =>
    let (g, more) := g.remove id
    (g, removed ++ more)) (g, [])

/-- Remove the resources that a query addresses, with everything below them. -/
def removeCovered [Location L] (g : ResourceGraph L) (query : L) :
    ResourceGraph L × List (Resource L) :=
  g.removeAll ((g.find query).map (·.id))

/-- Remove everything. -/
def clear (g : ResourceGraph L) : ResourceGraph L × List (Resource L) :=
  g.removeAll (g.rootResources.map (·.id))

/-- The line of a resource in a drawing of the graph. -/
def treeLine [Location L] (indent : Nat) (r : Resource L) : String :=
  String.join (List.replicate indent "...") ++ r.name ++ " [" ++ r.type.name ++ "] (" ++
    Location.text r.location ++ ")\n"

/-- The lines from an identifier down. -/
def treeLines [Location L] (g : ResourceGraph L) : Nat → Nat → String → List String
  | 0, _, _ => []
  | depth + 1, indent, id =>
    match g.nodes[id]? with
    | none => []
    | some node =>
      treeLine indent node.resource ::
        node.children.toList.flatMap (treeLines g depth (indent + 1))

/-- A drawing of the graph, one line for each resource. -/
def treeText [Location L] (g : ResourceGraph L) : String :=
  String.join (g.roots.toList.flatMap (g.treeLines g.size 0))

end ResourceGraph

end EndpointMonitor
