import DeviceRegistry.Http.Target
import DeviceRegistry.Json.Value

/-! HTTP requests and responses, as far as the routes look at them. -/
namespace DeviceRegistry.Http

/-- A header has its name in lower case. -/
structure Request where
  method : String
  /-- What the request is about, in one of the forms of a target. -/
  target : String
  headers : List (String × String) := []
  body : Bytes := []
deriving Inhabited

namespace Request

def path (r : Request) : String := targetPath r.target

def header? (r : Request) (name : String) : Option String :=
  (r.headers.find? (·.1 == name)).map (·.2)

end Request

structure Response where
  status : Nat
  headers : List (String × String) := []
  body : Bytes := []
deriving Inhabited

namespace Response

def json (status : Nat) (v : Json.Value) : Response :=
  ⟨status, [("content-type", "application/json")], v.write⟩

def text (status : Nat) (s : String) : Response :=
  ⟨status, [("content-type", "text/plain; charset=utf-8")], Bytes.ofText s⟩

def withHeader (r : Response) (name value : String) : Response :=
  { r with headers := r.headers ++ [(name, value)] }

end Response
end DeviceRegistry.Http
