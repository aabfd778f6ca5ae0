import EndpointMonitor.Endpoint.Basic
import EndpointMonitor.Http.Status
import EndpointMonitor.Text.Base64
import EndpointMonitor.Url.Basic

/-!
# Requests over HTTP

A request posts a JSON document, and what comes back is interpreted by whoever asked. The way
the request takes is a transport, a machine of its own: an endpoint that is asked over HTTP has
no state but the state of its transport.
-/

namespace EndpointMonitor

/-- Where an endpoint is found, and who asks. -/
structure Connection where
  url : String
  username : Option String := none
  password : Option String := none
  timeoutSecs : UInt64 := 10
  deriving DecidableEq, Inhabited

/-- What is sent. -/
structure HttpRequest where
  url : String
  /-- The name and the password of whoever asks, as a header carries them. -/
  authorization : Option String
  body : Json
  deriving Inhabited

/-- What comes back. -/
structure HttpResponse where
  status : HttpStatus
  body : String
  deriving DecidableEq, Inhabited

/-- What becomes of a request. -/
inductive HttpOutcome where
  | answered (response : HttpResponse)
  /-- There is no connection, or the time is up. -/
  | unreachable (reason : String)
  /-- The connection ends without a response. -/
  | lost (reason : String)
  deriving DecidableEq, Inhabited

/-- The way of requests, with a state `σ`. -/
abbrev Transport (σ : Type) := HttpRequest → σ → HttpOutcome × σ

namespace Connection

/-- The URL that a text stands for. -/
def readUrl (url : String) : Except LocationFault Url :=
  (Url.read url).mapError fun fault => .unreadableUrl url fault.message

/-- The header that carries the name and the password; a name alone is enough. -/
def authorization (c : Connection) : Option String :=
  c.username.map fun name =>
    "Basic " ++ Text.Base64.encodeText (name ++ ":" ++ c.password.getD "")

end Connection

namespace Transport

variable {σ α : Type}

/-- A transport without any connection. -/
def closed : Transport σ := fun request s =>
  (.unreachable ("error sending request for url (" ++ request.url ++ ")"), s)

/-- Post a document, and interpret what comes back. -/
def post (send : Transport σ) (c : Connection) (url : String) (body : Json)
    (interpret : HttpResponse → Except AccessError α) (s : σ) : Reply α × σ :=
  match send { url, authorization := c.authorization, body } s with
  | (.unreachable reason, s) => (.failed (.unreachable reason), s)
  | (.lost reason, s) => (.failed (.refused reason), s)
  | (.answered response, s) =>
    match interpret response with
    | .ok a => (.answer a, s)
    | .error e => (.failed e, s)

end Transport

end EndpointMonitor
