import DeviceRegistry.Http.MediaType
import DeviceRegistry.Http.Message
import DeviceRegistry.Json.Record
import DeviceRegistry.Message.Problem

/-! Taking a message out of a request. The content type is looked at first, then the length, then
the text. -/
namespace DeviceRegistry.Http

def bodyLimit : Nat := 2097152

inductive BodyError where
  | notJson
  | tooLong
  | undecodable (failure : Json.Failure) (place : Json.Place)
deriving DecidableEq

namespace BodyError

def message : BodyError → String
  | notJson => "Expected request with `Content-Type: application/json`"
  | tooLong => "Failed to buffer the request body: length limit exceeded"
  | undecodable failure place =>
    (match failure.cause with
      | .mismatch _ => "Failed to deserialize the JSON body into the target type: "
      | _ => "Failed to parse the request body as JSON: ") ++ failure.message ++ place.message

def toProblem (e : BodyError) : Problem :=
  .malformed ("the json request could not be decoded: " ++ e.message)

end BodyError

/-- A header value that may be looked at as a text. -/
def isVisible (s : String) : Bool := s.toList.all fun c => decide (0x20 ≤ c.toNat ∧ c.toNat < 0x7f)

/-- The request says that its body is JSON. -/
def Request.isJson (r : Request) : Bool :=
  match r.header? "content-type" with
  | some s => isVisible s && (MediaType.parse? s).any (·.isJson)
  | none => false

def Request.decode {α : Type} (r : Request) (shape : Json.Shape α) : Except BodyError α :=
  if !r.isJson then .error .notJson
  else if bodyLimit < r.body.length then .error .tooLong
  else (Json.readPlacing shape.read r.body).mapError fun (failure, place) =>
    .undecodable failure place

end DeviceRegistry.Http
