import EndpointMonitor.Http.Basic
import EndpointMonitor.Json.Parser
import EndpointMonitor.Json.Printer
import EndpointMonitor.Json.Record
import EndpointMonitor.Location.ManagementAddress
import Std.Data.TreeSet

/-!
# The management interface of a server

A question is an operation on an address. An operation on a pattern has a step for each node,
and only the steps that succeed count. A node that does not exist is an answer, not a failure.
-/

namespace EndpointMonitor.ManagementApi

/-- The code of a failure that means that a node does not exist. -/
def notFoundCode : String := "WFLYCTL0216"

/-- See that a URL leads to a server of the web. -/
def checkUrl (url : String) : Except LocationFault Unit := do
  let u ← Connection.readUrl url
  if u.scheme = "http" ∨ u.scheme = "https" then return () else .error (.unsupportedScheme url)

/-- The URL that operations are sent to. -/
def operationUrl (c : Connection) : String :=
  String.ofList ((c.url.toList.reverse.dropWhile (· = '/')).reverse) ++ "/management"

/-- An operation on an address. -/
def operation (name : String) (address : ManagementAddress) (arguments : List (String × Json)) :
    Json :=
  .mkObj ([("operation", .str name), ("address", address.toJson)] ++ arguments)

/-- The result of an operation. -/
structure Outcome where
  outcome : String
  result : Json
  failure : Json

/-- The result of an operation on one of the nodes of a pattern. -/
structure Step where
  address : Json
  outcome : String
  result : Json

/-- Read the result of an operation. -/
def Outcome.ofJson? (value : Json) : Option Outcome := do
  let f ← Decoding.fieldsOf .json 3 value
  return {
    outcome := ← Decoding.required f 0 "outcome" Json.string?
    result := ← Decoding.defaulted f 1 "result" .null some
    failure := ← Decoding.defaulted f 2 "failure-description" .null some }

/-- Read the result of one step. -/
def Step.ofJson? (value : Json) : Option Step := do
  let f ← Decoding.fieldsOf .json 3 value
  return {
    address := ← Decoding.required f 0 "address" some
    outcome := ← Decoding.required f 1 "outcome" Json.string?
    result := ← Decoding.defaulted f 2 "result" .null some }

/-- The text of a failure. -/
def failureText : Json → String
  | .str text => text
  | value => value.render

/-- The result that an operation leads to, or `none` if its node does not exist. -/
def Outcome.result? (o : Outcome) : Except AccessError (Option Json) :=
  if o.outcome = "success" then .ok (some o.result)
  else
    let description := failureText o.failure
    if Text.occursIn notFoundCode.toList description.toList then .ok none
    else .error (.refused description)

/-- Interpret a response to an operation. -/
def interpret (c : Connection) (r : HttpResponse) : Except AccessError (Option Json) :=
  if r.status.code = 401 then .error (.refused ("authentication failed against " ++ c.url))
  else
    match (Json.parse? r.body).bind Outcome.ofJson? with
    | some o => o.result?
    | none => .error (.refused ("invalid management response (HTTP " ++ r.status.text ++ "):"))

/-- The address and the result of each step that succeeded. -/
def stepResults (result : Json) : Except AccessError (List (ManagementAddress × Json)) :=
  match Decoding.list Step.ofJson? result with
  | none => .error (.refused "unexpected wildcard result:")
  | some steps =>
    ((steps.filter (·.outcome = "success")).mapM fun s =>
      (ManagementAddress.ofJson s.address).map fun address => (address, s.result)).mapError
        .invalidLocation

/-- The nodes that a query addresses. -/
def nodesOf (query : ManagementAddress) (result : Option Json) :
    Except AccessError (List ManagementAddress) :=
  match result with
  | none => .ok []
  | some result =>
    if Location.isPattern query then
      (stepResults result).map fun steps => (Std.TreeSet.ofList (steps.map (·.1)) compare).toList
    else .ok [query]

/-- Whether the description of a node lists an attribute. -/
def describes (description : Json) (name : String) : Bool :=
  ((description.field? "attributes").bind (·.field? name)).isSome

/-- Whether an attribute exists, by the description of the first node that is addressed. -/
def hasAttribute (a : AttributeLocation ManagementAddress) (result : Option Json) :
    Except AccessError Bool :=
  match result with
  | none => .ok false
  | some result =>
    if Location.isPattern a.node then
      (stepResults result).map fun steps => (steps.take 1).any fun (_, d) => describes d a.name
    else .ok (describes result a.name)

/-- The reading of an attribute. -/
def readingOf (a : AttributeLocation ManagementAddress) (result : Option Json) :
    Except AccessError Reading :=
  match result with
  | none => .error (.refused ("resource [" ++ Location.text a.node ++ "] not found"))
  | some result =>
    if Location.isPattern a.node then
      (stepResults result).map fun steps => .multiple (steps.map fun (_, v) => narrow a.field v)
    else .ok (.single (narrow a.field result))

/-- A server as a machine that answers questions. -/
def endpoint {σ : Type} (c : Connection) (send : Transport σ) :
    Endpoint ManagementAddress σ where
  protocol := "dmr"
  connect s := (.answer (), s)
  nodes query :=
    send.post c (operationUrl c) (operation "read-resource" query [("include-runtime", .bool true)])
      fun r => interpret c r >>= nodesOf query
  hasAttribute a :=
    send.post c (operationUrl c) (operation "read-resource-description" a.node [])
      fun r => interpret c r >>= hasAttribute a
  read a :=
    send.post c (operationUrl c)
      (operation "read-attribute" a.node [("name", .str a.name), ("include-defaults", .bool true)])
      fun r => interpret c r >>= readingOf a

end EndpointMonitor.ManagementApi
