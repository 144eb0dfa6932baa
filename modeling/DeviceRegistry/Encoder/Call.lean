import DeviceRegistry.Message.Location
import DeviceRegistry.Metrics

/-! Calls to the encoder: what they carry, what they answer, and how they fail. -/
namespace DeviceRegistry

/-- The topic under which a device publishes its readings. -/
def deviceTopic (token : String) : String := "device/sck/" ++ token ++ "/readings"

structure StreamRequest where
  broker : String := ""
  topic : String := ""
  devicePrivateKey : String := ""
  recipientPublicKey : String := ""
  userUid : String := ""
  location : Location := {}
  disposition : Disposition := .indoor
deriving DecidableEq, Inhabited

def StreamRequest.toJson (r : StreamRequest) : Json.Value :=
  .object [("broker_address", .text r.broker), ("device_topic", .text r.topic),
    ("device_private_key", .text r.devicePrivateKey),
    ("recipient_public_key", .text r.recipientPublicKey), ("user_uid", .text r.userUid),
    ("location", r.location.toJson), ("disposition", r.disposition.toJson)]

inductive EncoderCall where
  | createStream (request : StreamRequest)
  | deleteStream (uid : String)
deriving DecidableEq, Inhabited

namespace EncoderCall

def method : EncoderCall → EncoderMethod
  | createStream _ => .createStream
  | deleteStream _ => .deleteStream

/-- What a call gives when it succeeds: the uid of the new stream, or nothing. -/
abbrev Answer : EncoderCall → Type
  | createStream _ => String
  | deleteStream _ => Unit

def toJson : EncoderCall → Json.Value
  | createStream request => request.toJson
  | deleteStream uid => .object [("stream_uid", .text uid)]

end EncoderCall

inductive EncoderError where
  /-- No answer came back, or one that cannot be read. -/
  | transport (reason : String)
  /-- There is no address to send the call to. -/
  | endpoint (reason : String)
  /-- The encoder refused. -/
  | rejected (code message : String)
  /-- The answer does not hold what it has to. -/
  | invalidResponse (reason : String)
deriving DecidableEq, Inhabited

def EncoderError.message : EncoderError → String
  | transport reason => "encoder request failed: " ++ reason
  | endpoint reason => "invalid encoder endpoint: " ++ reason
  | rejected code message => "encoder returned " ++ code ++ ": " ++ message
  | invalidResponse reason => "encoder response was invalid: " ++ reason

end DeviceRegistry
