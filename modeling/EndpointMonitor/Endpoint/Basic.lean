import EndpointMonitor.Json.Basic
import EndpointMonitor.Location.Basic

/-!
# Endpoints

An endpoint is a machine that answers questions about its nodes. Every question may change its
state, may fail, and may even break the one who asks.
-/

namespace EndpointMonitor

/-- The value of an attribute: one value, or one from each node that a pattern addresses. -/
inductive Reading where
  | single (value : Json)
  | multiple (values : List Json)

/-- The values of a reading. -/
def Reading.values : Reading → List Json
  | .single value => [value]
  | .multiple values => values

/-- The part of a value that an attribute location asks for. -/
def narrow (field : Option String) (value : Json) : Json :=
  match field with
  | none => value
  | some name => (value.field? name).getD .null

/-- What a question leads to. -/
inductive Reply (α : Type) where
  | answer (value : α)
  | failed (error : AccessError)
  /-- The question has no reply at all: whoever asked is cut short. -/
  | broken

/-- An endpoint whose state is a `σ`. -/
structure Endpoint (L σ : Type) where
  /-- The name of the protocol, under which its requests are counted. -/
  protocol : String
  /-- Start a conversation. -/
  connect : σ → Reply Unit × σ
  /-- The nodes that a query addresses, in order. -/
  nodes : L → σ → Reply (List L) × σ
  /-- Whether an attribute exists at some node. -/
  hasAttribute : AttributeLocation L → σ → Reply Bool × σ
  /-- The value of an attribute. -/
  read : AttributeLocation L → σ → Reply Reading × σ

end EndpointMonitor
