import EndpointMonitor.Endpoint.Basic
import Std.Data.TreeMap

/-!
# Snapshots

A snapshot is the nodes of an endpoint with their attributes at one instant. Everything that
is read from a snapshot agrees with everything else that is.
-/

namespace EndpointMonitor

/-- The attributes of a node. -/
abbrev Attributes := Std.TreeMap String Json

/-- The nodes of an endpoint with their attributes. -/
structure Snapshot (L : Type) [Location L] where
  nodes : Std.TreeMap L Attributes := ∅

namespace Snapshot

variable {L : Type} [Location L]

/-- The nodes that a query addresses, in order, with their attributes. -/
def covered (s : Snapshot L) (query : L) : List (L × Attributes) :=
  s.nodes.toList.filter fun (node, _) => Location.covers query node

/-- The locations of the nodes that a query addresses. -/
def nodesAt (s : Snapshot L) (query : L) : List L :=
  (s.covered query).map (·.1)

/-- Whether some node that is addressed has the attribute. -/
def hasAttribute (s : Snapshot L) (a : AttributeLocation L) : Bool :=
  (s.covered a.node).any fun (_, attributes) => attributes.contains a.name

/-- The values of an attribute at the nodes that are addressed. -/
def valuesAt (s : Snapshot L) (a : AttributeLocation L) : List Json :=
  (s.covered a.node).filterMap fun (_, attributes) => attributes[a.name]?.map (narrow a.field)

/-- Read an attribute; without a pattern some node has to have it. -/
def read (s : Snapshot L) (a : AttributeLocation L) : Except AccessError Reading :=
  if Location.isPattern a.node then .ok (.multiple (s.valuesAt a))
  else
    match (s.valuesAt a).getLast? with
    | some value => .ok (.single value)
    | none => .error (.refused ("attribute [" ++ a.text ++ "] not found"))

/-- Set an attribute of a node, which is added if it is not there. -/
def setAttribute (s : Snapshot L) (node : L) (name : String) (value : Json) : Snapshot L :=
  ⟨s.nodes.insert node ((s.nodes[node]?.getD ∅).insert name value)⟩

/-- Remove an attribute of a node, and the node with its last one. -/
def removeAttribute (s : Snapshot L) (node : L) (name : String) : Snapshot L :=
  match s.nodes[node]? with
  | none => s
  | some attributes =>
    let rest := attributes.erase name
    ⟨if rest.isEmpty then s.nodes.erase node else s.nodes.insert node rest⟩

/-- A snapshot as an endpoint that answers every question and never changes. -/
def endpoint (protocol : String) : Endpoint L (Snapshot L) where
  protocol := protocol
  connect s := (.answer (), s)
  nodes query s := (.answer (s.nodesAt query), s)
  hasAttribute a s := (.answer (s.hasAttribute a), s)
  read a s :=
    match s.read a with
    | .ok reading => (.answer reading, s)
    | .error e => (.failed e, s)

end Snapshot

end EndpointMonitor
