import DeviceRegistry.Http.Body
import DeviceRegistry.Registrar.Basic

/-! The HTTP surface of a registrar: two methods over JSON, probes, metrics. Every answer may be
read from any origin, and every one but the answer to a preflight carries the request's id.

The pages that describe the service to people and tools, `/docs`, what lies below it and
`/api-doc/openapi.json`, are not modelled. They touch neither the registrar nor the encoder; here
their paths are answered like any other path without a route. -/
namespace DeviceRegistry.Http

inductive Route where
  | claim | revoke | pulse | live | ready | metrics
deriving DecidableEq, Inhabited

namespace Route

def path : Route → String
  | claim => "/twirp/decode.iot.devicereg.DeviceRegistration/ClaimDevice"
  | revoke => "/twirp/decode.iot.devicereg.DeviceRegistration/RevokeDevice"
  | pulse => "/pulse"
  | live => "/health/live"
  | ready => "/health/ready"
  | metrics => "/metrics"

def all : List Route := [claim, revoke, pulse, live, ready, metrics]

def ofPath? (path : String) : Option Route := all.find? (·.path == path)

/-- The two methods take a message; the others are looked at. -/
def takesMessage : Route → Bool
  | claim | revoke => true
  | _ => false

/-- The HTTP methods that the route answers, as its header lists them. -/
def allowed (r : Route) : String := if r.takesMessage then "POST" else "GET,HEAD"

def answers (r : Route) (method : String) : Bool :=
  if r.takesMessage then method == "POST" else method == "GET" || method == "HEAD"

end Route

def problemResponse (p : Problem) : Response := .json p.code.status p.toJson

/-- A problem with the route itself, which is named among its facts. -/
def badRoute (r : Request) (message : String) : Response :=
  problemResponse <|
    (Problem.badRoute message).withFact "twirp_invalid_route" (r.method ++ " " ++ r.path)

variable {S T : Type} [Records T] [Backend S T]

/-- Answers with the message that a piece of work gives. A failure inside is put on record. -/
def answer {α : Type} (method : String) (work : Registrar.Work S α) (toJson : α → Json.Value) :
    Flow (Registrar S) Response := do
  match ← work.run with
  | .ok a => return .json 200 (toJson a)
  | .error e =>
    if let .internal .. := e then
      modify fun r => { r with log := r.log ++ [.requestFailed method e] }
    return problemResponse e.toProblem

/-- Takes a message out of the request and works on it. -/
def handle {α β : Type} (r : Request) (method : String) (shape : Json.Shape α)
    (work : α → Registrar.Work S β) (toJson : β → Json.Value) : Flow (Registrar S) Response :=
  match r.decode shape with
  | .error e => return problemResponse e.toProblem
  | .ok message => answer method (work message) toJson

def readyJson (status store : String) : Json.Value :=
  .object [("status", .text status),
    ("checks", .object [("service", .text "ok"), ("store", .text store)])]

/-- Whether the store answers. -/
def readiness : Flow (Registrar S) Response := do
  match ← Registrar.checkReady.run with
  | .ok () => return .json 200 (readyJson "ok" "ok")
  | .error e =>
    modify fun r => { r with log := r.log ++ [.notReady e] }
    return .json 503 (readyJson "degraded" e.message)

/-- A route's answer to a method that it takes. -/
def Route.respond (r : Request) : Route → Flow (Registrar S) Response
  | .claim => handle r "ClaimDevice" ClaimRequest.shape Registrar.claim ClaimResponse.toJson
  | .revoke => handle r "RevokeDevice" RevokeRequest.shape Registrar.revoke RevokeResponse.toJson
  | .pulse => return .text 200 "ok"
  | .live => return .json 200 (.object [("status", .text "ok")])
  | .ready => readiness
  | .metrics => do return .json 200 (← get).metrics.toJson

def routed (r : Request) : Flow (Registrar S) Response :=
  match Route.ofPath? r.path with
  | none => return badRoute r ("no handler for path " ++ Text.quoted r.path)
  | some route =>
    if route.answers r.method then route.respond r
    else if route.takesMessage then
      return (badRoute r <| "unsupported method " ++ Text.quoted r.method ++
        " (only POST is allowed)").withHeader "allow" route.allowed
    else return { status := 405, headers := [("allow", route.allowed)] }

/-- The headers that an answer's origin may depend on. -/
def varyHeader : String × String :=
  ("vary", "origin, access-control-request-method, access-control-request-headers")

/-- The answer to a preflight: everything is allowed. -/
def preflight (r : Request) : Response where
  status := 200
  headers := [("access-control-allow-origin", "*"), varyHeader,
    ("access-control-allow-methods", "*"), ("access-control-allow-headers", "*")] ++
    ((Route.ofPath? r.path).map fun route => ("allow", route.allowed)).toList

/-- Answers a request. A request without an id of its own gets the fresh one. -/
def respond (freshId : String) (r : Request) : Flow (Registrar S) Response := do
  if r.method == "OPTIONS" then return preflight r
  let response ← routed r
  return { response with
    headers := response.headers ++ [("x-request-id", (r.header? "x-request-id").getD freshId),
      ("access-control-allow-origin", "*"), varyHeader, ("access-control-expose-headers", "*")]
    body := if r.method == "HEAD" then [] else response.body }

end DeviceRegistry.Http
