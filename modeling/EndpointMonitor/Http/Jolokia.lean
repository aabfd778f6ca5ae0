import EndpointMonitor.Http.Basic
import EndpointMonitor.Json.Parser
import EndpointMonitor.Json.Printer
import EndpointMonitor.Json.Record
import EndpointMonitor.Location.ObjectName
import Std.Data.TreeSet

/-!
# Jolokia agents

An agent searches for object names and reads attributes. What it has no object or attribute for
is an answer, not a failure. A field of a value is looked up by the agent, except where a pattern
is read: then the values of all objects come back and are narrowed here.
-/

namespace EndpointMonitor.Jolokia

/-- See that a URL can be read. -/
def checkUrl (url : String) : Except LocationFault Unit :=
  (Connection.readUrl url).map fun _ => ()

/-- The errors that mean that an object or an attribute does not exist. -/
def notFoundTypes : List String :=
  ["javax.management.InstanceNotFoundException", "javax.management.AttributeNotFoundException"]

/-- A search for the names that a pattern stands for. -/
def searchRequest (query : ObjectName) : Json :=
  .mkObj [("type", .str "search"), ("mbean", .str query.text)]

/-- A request for an attribute, and for one field of it where a field is given. -/
def readRequest (a : AttributeLocation ObjectName) (field : Option String) : Json :=
  .mkObj ([("type", .str "read"), ("mbean", .str a.node.text), ("attribute", .str a.name)] ++
    (field.map fun name => ("path", .str name)).toList)

/-- What an agent answers. -/
structure Answer where
  status : UInt64
  value : Json
  errorType : Option String
  error : Option String

/-- A status, which is a number of sixteen bits. -/
def status? (value : Json) : Option UInt64 :=
  value.word?.filter (· < 65536)

/-- Read what an agent answers. -/
def Answer.ofJson? (value : Json) : Option Answer := do
  let f ← Decoding.fieldsOf .json 4 value
  return {
    status := ← Decoding.required f 0 "status" status?
    value := ← Decoding.defaulted f 1 "value" .null some
    errorType := ← Decoding.defaulted f 2 "error_type" none (Decoding.nullable Json.string?)
    error := ← Decoding.defaulted f 3 "error" none (Decoding.nullable Json.string?) }

/-- The value that is answered, or `none` if what was asked for does not exist. -/
def Answer.value? (a : Answer) : Except AccessError (Option Json) :=
  if a.status = 200 then .ok (some a.value)
  else if a.errorType.any notFoundTypes.contains then .ok none
  else .error (.refused (a.error.getD ("Jolokia status " ++ toString a.status)))

/-- Interpret a response of an agent. -/
def interpret (c : Connection) (r : HttpResponse) : Except AccessError (Option Json) :=
  if !r.status.isSuccess then
    .error (.refused ("Jolokia agent at " ++ c.url ++ " returned HTTP " ++ r.status.text))
  else
    match (Json.parse? r.body).bind Answer.ofJson? with
    | some a => a.value?
    | none => .error (.refused "invalid Jolokia response:")

/-- The names that a search has found; a text that is no name is left out. -/
def nodesOf (value : Option Json) : Except AccessError (List ObjectName) :=
  match value with
  | none => .ok []
  | some (.arr names) =>
    let texts := names.filterMap Json.string?
    let found := texts.filterMap fun name => (ObjectName.read name).toOption
    .ok (Std.TreeSet.ofList found compare).toList
  | some value => .error (.refused ("unexpected search result: " ++ value.render))

/-- The reading of an attribute. A pattern leads to an object with the attributes of each name. -/
def readingOf (a : AttributeLocation ObjectName) (value : Option Json) :
    Except AccessError Reading :=
  match value with
  | none => .error (.refused ("attribute [" ++ a.text ++ "] not found"))
  | some value =>
    if !a.node.isPattern then .ok (.single value)
    else
      match value with
      | .obj objects => .ok (.multiple (objects.map fun (_, attributes) =>
          narrow a.field ((attributes.field? a.name).getD .null)))
      | value => .error (.refused ("unexpected pattern read result: " ++ value.render))

/-- An agent as a machine that answers questions. -/
def endpoint {σ : Type} (c : Connection) (send : Transport σ) : Endpoint ObjectName σ where
  protocol := "jmx"
  connect s := (.answer (), s)
  nodes query := send.post c c.url (searchRequest query) fun r => interpret c r >>= nodesOf
  hasAttribute a :=
    send.post c c.url (readRequest a none) fun r => (interpret c r).map (·.isSome)
  read a :=
    send.post c c.url (readRequest a (if a.node.isPattern then none else a.field))
      fun r => interpret c r >>= readingOf a

end EndpointMonitor.Jolokia
