import EndpointMonitor.Diagnostics
import EndpointMonitor.Endpoint.Basic

/-!
# Conversations with an endpoint

A conversation asks one question after the other. Each answered question is counted, whether
it failed or not; one that breaks the conversation is not.
-/

namespace EndpointMonitor

/-- What a conversation changes. -/
structure Exchange (σ : Type) where
  /-- The state of the endpoint. -/
  peer : σ
  diagnostics : Diagnostics := {}
  log : List LogLine := []
  deriving Inhabited

/-- What cuts a conversation short. -/
inductive Breakdown where
  /-- A question broke the one who asked it. -/
  | broken
  /-- A scan went deeper than it is allowed to. -/
  | tooDeep
  deriving DecidableEq, Inhabited

/-- A part of a conversation that yields an `α` unless it is cut short. -/
abbrev Conversation (σ α : Type) := ExceptT Breakdown (StateM (Exchange σ)) α

namespace Conversation

variable {L σ α : Type}

/-- Append a line to the log. -/
def note (level : LogLevel) (message : String) : StateM (Exchange σ) Unit :=
  modify fun x => { x with log := x.log ++ [⟨level, message⟩] }

/-- Append a line to the log in the middle of a conversation. -/
def report (level : LogLevel) (message : String) : Conversation σ Unit :=
  liftM (note (σ := σ) level message)

/-- Ask a question that is not counted. -/
def contact (question : σ → Reply α × σ) : Conversation σ (Except AccessError α) :=
  ExceptT.mk fun x =>
    match question x.peer with
    | (.answer a, peer) => (.ok (.ok a), { x with peer })
    | (.failed e, peer) => (.ok (.error e), { x with peer })
    | (.broken, peer) => (.error .broken, { x with peer })

/-- Count a request of a protocol. -/
def count (protocol : String) (failed : Bool) : StateM (Exchange σ) Unit :=
  modify fun x => { x with diagnostics := x.diagnostics.recordRequest protocol 0 failed }

/-- Ask a question and count it. -/
def ask (protocol : String) (question : σ → Reply α × σ) :
    Conversation σ (Except AccessError α) := do
  let reply ← contact question
  liftM (count (σ := σ) protocol (reply matches .error _))
  return reply

/-- Ask for the nodes that a query addresses. -/
def nodes (e : Endpoint L σ) (query : L) : Conversation σ (Except AccessError (List L)) :=
  ask e.protocol (e.nodes query)

/-- Ask whether an attribute exists. -/
def hasAttribute (e : Endpoint L σ) (location : AttributeLocation L) :
    Conversation σ (Except AccessError Bool) :=
  ask e.protocol (e.hasAttribute location)

/-- Ask for the value of an attribute. -/
def read (e : Endpoint L σ) (location : AttributeLocation L) :
    Conversation σ (Except AccessError Reading) :=
  ask e.protocol (e.read location)

/-- The parts for the members of a list, one after the other. -/
def each {β : Type} (part : β → Conversation σ α) : List β → Conversation σ (List α)
  | [] => return []
  | b :: rest => do
    let a ← part b
    let as ← each part rest
    return a :: as

end Conversation

end EndpointMonitor
