import DeviceRegistry.Encoder.Client
import DeviceRegistry.Proofs.Encoder.Attendance
import DeviceRegistry.Proofs.Encoder.Reply

/-! Exchanges that came about by messages: a client posted the call, and what it answers was made of the
reply. -/
namespace DeviceRegistry

namespace EncoderClient

/-- The call is posted, and that reply comes back. -/
def Receives (client : EncoderClient) (network : Network Id) (c : EncoderCall) (reply : Reply) :
    Prop :=
  ∃ url, client.endpoint c.method = .ok url ∧ isReachable (withoutCredentials url) = true ∧
    network ⟨url, c.toJson.write⟩ = some reply

/-- What a call gives once the network has brought back a reply, or none. -/
def told (c : EncoderCall) (shown : Url) : Option Reply → Except EncoderError c.Answer
  | some reply => reply.answer c
  | none => .error (.transport ("error sending request for url (" ++ shown.text ++ ")"))

variable {client : EncoderClient} {c : EncoderCall} {url : Url}

theorem call_of_reachable {m : Type → Type} [Monad m] {network : Network m}
    (address : client.endpoint c.method = .ok url)
    (reachable : isReachable (withoutCredentials url) = true) :
    client.call network c = (do
      let reply ← network ⟨url, c.toJson.write⟩
      return told c (withoutCredentials url) reply) := by
  simp only [call, address, reachable, if_true]
  congr 1
  funext reply
  cases reply <;> rfl

variable {network : Network Id}

/-- The answer is what the reply tells. -/
theorem call_of_receives {reply : Reply} (h : client.Receives network c reply) :
    (client.call network c).run = reply.answer c := by
  obtain ⟨url, address, reachable, replied⟩ := h
  rw [call_of_reachable address reachable]
  show told c (withoutCredentials url) (network ⟨url, c.toJson.write⟩) = _
  rw [replied, told]

/-- A call that succeeds was posted and replied to. -/
theorem receives_of_call {answer : c.Answer} (h : (client.call network c).run = .ok answer) :
    ∃ reply, client.Receives network c reply := by
  cases address : client.endpoint c.method with
  | error e =>
    simp only [call, address] at h
    cases h
  | ok url =>
    by_cases reachable : isReachable (withoutCredentials url) = true
    · rw [call_of_reachable address reachable] at h
      change told c (withoutCredentials url) (network ⟨url, c.toJson.write⟩) = _ at h
      cases replied : network ⟨url, c.toJson.write⟩ with
      | some reply => exact ⟨reply, url, address, reachable, replied⟩
      | none =>
        rw [replied, told] at h
        cases h
    · simp only [call, address, reachable] at h
      cases h

/-- A client of an encoder on the same machine. -/
def localClient : EncoderClient where
  base := { scheme := "http", authority := some { host := .name "localhost" }, path := .segments [""] }

theorem localClient_receives (request : StreamRequest) (reply : Reply) :
    localClient.Receives (fun _ => some reply) (.createStream request) reply := by
  let names := ["twirp", "decode.iot.encoder.Encoder", "CreateStream"]
  have address : localClient.endpoint .createStream =
      .ok { localClient.base with path := .segments names } := by
    decide +kernel
  exact ⟨_, address, by decide +kernel, rfl⟩

end EncoderClient

/-- A reply that tells the uid of a stream. -/
def Reply.oneStream : Reply := ⟨200, (Json.Value.object [("stream_uid", .text "stream")]).write⟩

theorem Reply.oneStream_answer (request : StreamRequest) :
    oneStream.answer (.createStream request) = .ok "stream" :=
  answer_named (by decide +kernel) (by decide) request

namespace Exchange

/-- A client has made the call, whatever the network brought it. -/
def Delivered (x : Exchange) : Prop :=
  ∃ (client : EncoderClient) (network : Network Id), (client.call network x.call).run = x.answer

/-- The call was replied to with a status that is a success, and the reply gives the answer. -/
def Accepted (x : Exchange) : Prop :=
  ∃ (client : EncoderClient) (network : Network Id) (reply : Reply),
    client.Receives network x.call reply ∧ reply.isSuccess = true ∧ reply.answer x.call = x.answer

theorem Delivered.accepted {x : Exchange} (h : x.Delivered) {answer : x.call.Answer}
    (succeeded : x.answer = .ok answer) : x.Accepted := by
  obtain ⟨client, network, called⟩ := h
  obtain ⟨reply, received⟩ := EncoderClient.receives_of_call (called.trans succeeded)
  have told := (EncoderClient.call_of_receives received).symm.trans called
  exact ⟨client, network, reply, received, reply.isSuccess_of_answer (told.trans succeeded), told⟩

theorem delivered_oneStream (request : StreamRequest) :
    Delivered ⟨.createStream request, .ok "stream"⟩ := by
  have received := EncoderClient.localClient_receives request .oneStream
  have told := EncoderClient.call_of_receives received
  exact ⟨_, _, told.trans (Reply.oneStream_answer request)⟩

end Exchange
end DeviceRegistry
