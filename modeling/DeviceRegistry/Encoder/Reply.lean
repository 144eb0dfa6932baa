import DeviceRegistry.Encoder.Call
import DeviceRegistry.Json.Record
import DeviceRegistry.Text.Lossy

/-! What the answers of the encoder mean. A status from 200 to 299 is a success, and then the body
has to hold the answer; any other status is a refusal, which the body may explain. -/
namespace DeviceRegistry

structure Reply where
  status : Nat
  body : Bytes
deriving Inhabited

structure Refusal where
  code : String := ""
  message : String := ""
deriving DecidableEq, Inhabited

namespace Reply

def isSuccess (r : Reply) : Bool := decide (200 ≤ r.status ∧ r.status < 300)

def refusalShape : Json.Shape Refusal where
  title := "a refusal"
  initial := {}
  members := [
    ⟨"code", true, do let s ← Json.Reader.text; return ({ · with code := s })⟩,
    ⟨"msg", false, do let s ← Json.Reader.text; return ({ · with message := s })⟩]

/-- The uid of a new stream; empty if the body leaves it out. -/
def createdShape : Json.Shape String where
  title := "a new stream"
  initial := ""
  members := [⟨"stream_uid", false, do let s ← Json.Reader.text; return fun _ => s⟩]

def deletedShape : Json.Shape Unit := ⟨"a deletion", (), []⟩

/-- The refusal that the body explains, or else one with the status and the whole body. -/
def refusal (r : Reply) : EncoderError :=
  let text := r.body.lossyText
  match Json.read refusalShape.read (Bytes.ofText text) with
  | .ok e => .rejected e.code e.message
  | .error _ => .rejected (toString r.status) text

/-- What a body that has to hold an answer holds. -/
def decode {α : Type} (r : Reply) (shape : Json.Shape α) : Except EncoderError α :=
  if r.isSuccess then
    (Json.read shape.read r.body).mapError fun _ => .transport "error decoding response body"
  else .error r.refusal

/-- The answer to a call. A stream without a uid is no stream. -/
def answer (r : Reply) : (c : EncoderCall) → Except EncoderError c.Answer
  | .createStream _ =>
    match r.decode createdShape with
    | .ok "" => .error (.invalidResponse "missing stream_uid in CreateStream response")
    | .ok uid => .ok uid
    | .error e => .error e
  | .deleteStream _ => r.decode deletedShape

end Reply
end DeviceRegistry
