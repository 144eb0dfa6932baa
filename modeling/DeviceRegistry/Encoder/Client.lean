import DeviceRegistry.Encoder.Reply
import DeviceRegistry.Url.Relative

/-! The encoder behind a URL. Each method has an address below the base; a call is one message to
that address. -/
namespace DeviceRegistry

structure EncoderClient where
  base : Url

/-- A message to the encoder, in JSON. -/
structure Posted where
  url : Url
  body : Bytes

/-- What carries messages to the encoder and brings back the reply, if there is one. -/
abbrev Network (m : Type → Type) := Posted → m (Option Reply)

namespace EncoderClient

/-- The path of the service from the base. -/
def servicePath : String := "twirp/decode.iot.encoder.Encoder"

/-- The base with a slash at the end of its path, so that what is followed from there is below it. -/
def directory (client : EncoderClient) : Url :=
  let path := client.base.path.text
  if path.toList.getLast? = some '/' then client.base else client.base.withPath (path ++ "/")

def endpoint (client : EncoderClient) (method : EncoderMethod) : Except UrlError Url :=
  client.directory.follow (servicePath ++ "/" ++ method.name)

/-- The URL without user name and password, which are sent apart from it. A user name that is no
text is left where it is. -/
def withoutCredentials (u : Url) : Url :=
  let isText (s : String) : Bool := (Bytes.text? (Percent.decodeText s.toList)).isSome
  match u.authority with
  | some a =>
    if isText a.username && (a.username != "" || a.password.any isText) then
      { u with authority := some { a with username := "", password := none } }
    else u
  | none => u

/-- The longest URL that a request can name, in bytes. -/
def longestUrl : Nat := 65534

/-- A message can be sent there: by HTTP, to a host that a request line can name. -/
def isReachable (u : Url) : Bool :=
  (u.scheme == "http" || u.scheme == "https") && u.text.utf8ByteSize ≤ longestUrl &&
    u.authority.all fun a => !a.host.text.toList.any fun c => ['"', '`', '\x7b', '\x7d'].contains c

def call {m : Type → Type} [Monad m] (client : EncoderClient) (network : Network m)
    (c : EncoderCall) : m (Except EncoderError c.Answer) := do
  match client.endpoint c.method with
  | .error e => return .error (.endpoint e.message)
  | .ok url =>
    let shown := withoutCredentials url
    if isReachable shown then
      match ← network ⟨url, c.toJson.write⟩ with
      | some reply => return reply.answer c
      | none =>
        return .error (.transport ("error sending request for url (" ++ shown.text ++ ")"))
    else return .error (.transport ("builder error for url (" ++ shown.text ++ ")"))

end EncoderClient
end DeviceRegistry
