import EndpointMonitor.Endpoint.Snapshot
import Std.Data.TreeSet

/-!
# Endpoints held in memory

An endpoint whose nodes and attributes can be changed at will, and that fails on demand. A
conversation sees the nodes and attributes of the moment it started; faults take effect at
once.
-/

namespace EndpointMonitor

/-- How a conversation fails to start. -/
inductive ConnectFault where
  | noRoute
  | breaks
  | refuses (reason : String)
  deriving DecidableEq, Inhabited

/-- The faults of an endpoint. -/
structure Faults (L : Type) where
  connect : Option ConnectFault := none
  unreachable : Bool := false
  /-- The number of questions that are still answered. -/
  budget : Option UInt64 := none
  queries : List L := []
  attributes : List String := []
  deriving Inhabited

/-- The state of an endpoint in memory. -/
structure InMemory (L : Type) [Location L] where
  nodes : Std.TreeSet L := ∅
  attributes : Snapshot L := {}
  faults : Faults L := {}
  /-- The nodes that the conversation sees. -/
  seenNodes : List L := []
  /-- The attributes that the conversation sees. -/
  seen : Snapshot L := {}

namespace InMemory

variable {L : Type} [Location L]

/-- Start a conversation. Where attributes make nodes, the nodes it sees include those that
have attributes. -/
def connect (attributesMakeNodes : Bool) (e : InMemory L) : Reply Unit × InMemory L :=
  match e.faults.connect with
  | some .noRoute => (.failed (.unreachable "no route"), e)
  | some .breaks => (.broken, e)
  | some (.refuses reason) => (.failed (.refused reason), e)
  | none =>
    let listed := if attributesMakeNodes then e.attributes.nodes.keys else []
    (.answer (), { e with
      seenNodes := (e.nodes.insertMany listed).toList
      seen := e.attributes })

/-- Answer a question unless the endpoint is out of reach. -/
def reach {α : Type} (e : InMemory L) (answer : Except AccessError α) :
    Reply α × InMemory L :=
  let reply : Reply α := match answer with
    | .ok a => .answer a
    | .error f => .failed f
  let refused : Reply α := .failed (.unreachable "connection refused")
  match e.faults.budget with
  | none => (if e.faults.unreachable then refused else reply, e)
  | some n =>
    if n = 0 then (refused, e)
    else
      (if e.faults.unreachable then refused else reply,
        { e with faults := { e.faults with budget := some (n - 1) } })

/-- The answer about the nodes that a query addresses. -/
def nodesAnswer (e : InMemory L) (query : L) : Except AccessError (List L) :=
  if e.faults.queries.contains query then
    .error (.refused ("query [" ++ Location.text query ++ "] failed"))
  else .ok (e.seenNodes.filter fun node => Location.covers query node)

/-- The answer about an attribute. -/
def attributeAnswer {α : Type} (e : InMemory L) (a : AttributeLocation L)
    (answer : Except AccessError α) : Except AccessError α :=
  if e.faults.attributes.contains a.name then
    .error (.refused ("attribute [" ++ a.name ++ "] failed"))
  else answer

/-- The endpoint as a machine that answers questions. -/
def endpoint (protocol : String) (attributesMakeNodes : Bool) : Endpoint L (InMemory L) where
  protocol := protocol
  connect e := e.connect attributesMakeNodes
  nodes query e := e.reach (e.nodesAnswer query)
  hasAttribute a e := e.reach (e.attributeAnswer a (.ok (e.seen.hasAttribute a)))
  read a e := e.reach (e.attributeAnswer a (e.seen.read a))

/-- Add a node. -/
def addNode (e : InMemory L) (node : L) : InMemory L :=
  { e with nodes := e.nodes.insert node }

/-- Remove a node with all its attributes. -/
def removeNode (e : InMemory L) (node : L) : InMemory L :=
  { e with nodes := e.nodes.erase node, attributes := ⟨e.attributes.nodes.erase node⟩ }

/-- Set an attribute, whether its node exists or not. -/
def setAttribute (e : InMemory L) (node : L) (name : String) (value : Json) : InMemory L :=
  { e with attributes := e.attributes.setAttribute node name value }

/-- Remove an attribute. -/
def removeAttribute (e : InMemory L) (node : L) (name : String) : InMemory L :=
  { e with attributes := e.attributes.removeAttribute node name }

/-- Change the faults. -/
def withFaults (e : InMemory L) (change : Faults L → Faults L) : InMemory L :=
  { e with faults := change e.faults }

end InMemory

end EndpointMonitor
