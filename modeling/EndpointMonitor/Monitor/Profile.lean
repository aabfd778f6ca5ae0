import EndpointMonitor.Endpoint.Conversation
import EndpointMonitor.ResourceType.Graph

/-!
# Profiles of monitored endpoints

A profile is all that stays the same while an endpoint is monitored. An endpoint is ready once
each of some queries addresses at least one node; before that nothing is asked of it.
-/

namespace EndpointMonitor

/-- What is known about a monitored endpoint. -/
structure Profile (L σ : Type) where
  feed : String
  name : String
  waitFor : List L := []
  types : TypeGraph L
  endpoint : Endpoint L σ

/-- Why an operation on a monitored endpoint is refused. -/
inductive MonitorError where
  | notReady (endpoint : String)
  | scanInProgress (endpoint : String)
  | access (error : AccessError)
  deriving DecidableEq, Inhabited

/-- The wording of a refusal. -/
def MonitorError.message : MonitorError → String
  | .notReady endpoint => "Endpoint [" ++ endpoint ++ "] is not ready yet"
  | .scanInProgress endpoint => "Discovery is already running for endpoint [" ++ endpoint ++ "]"
  | .access error => error.message

/-- Why an operation on a monitored endpoint has no result. -/
inductive Failure where
  | refused (error : MonitorError)
  | cutShort (breakdown : Breakdown)
  deriving DecidableEq, Inhabited

namespace Profile

open Conversation

variable {L σ : Type}

/-- Ask the queries in order until one of them shows that the endpoint is not ready. -/
def awaitNodes (p : Profile L σ) : List L → Conversation σ (Except MonitorError Unit)
  | [] => return .ok ()
  | query :: rest => do
    match ← nodes p.endpoint query with
    | .error e => return .error (.access e)
    | .ok found => if found.isEmpty then return .error (.notReady p.name) else awaitNodes p rest

/-- Connect to the endpoint, and see that it is ready. -/
def openReady (p : Profile L σ) : Conversation σ (Except MonitorError Unit) := do
  match ← contact p.endpoint.connect with
  | .error e => return .error (.access e)
  | .ok _ => awaitNodes p p.waitFor

end Profile

end EndpointMonitor
