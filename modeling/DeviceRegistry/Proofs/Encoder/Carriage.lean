import DeviceRegistry.Proofs.Encoder.Delivery
import DeviceRegistry.Proofs.Json.Written
import DeviceRegistry.Proofs.Registrar.ClaimEffect

/-! What clients post to the encoder. A message carries the request as it is: what one of its texts
contains has no bearing on where another one begins or ends. -/
namespace DeviceRegistry
open Json

theorem deviceTopic_injective {token token' : String} (same : deviceTopic token = deviceTopic token') :
    token = token' := by
  simp only [deviceTopic, ← String.toList_inj, String.toList_append, List.append_cancel_left_eq,
    List.append_cancel_right_eq] at same
  exact String.toList_inj.1 same

theorem Disposition.wireName_injective {d d' : Disposition} (same : d.wireName = d'.wireName) :
    d = d' := by
  revert same
  cases d <;> cases d' <;> decide

theorem Location.written {l : Location} (finite : l.IsFinite) : Written l.toJson := by
  apply written_object
  simp only [List.forall_mem_cons]
  exact ⟨written_real finite.1, written_real finite.2, List.forall_mem_nil _⟩

theorem StreamRequest.written {r : StreamRequest} (finite : r.location.IsFinite) :
    Written r.toJson := by
  apply written_object
  simp only [List.forall_mem_cons]
  exact ⟨written_text _, written_text _, written_text _, written_text _, written_text _,
    Location.written finite, written_text _, List.forall_mem_nil _⟩

theorem StreamRequest.toJson_injective {r r' : StreamRequest} (same : r.toJson = r'.toJson) :
    r = r' := by
  obtain ⟨broker, topic, privateKey, publicKey, uid, ⟨longitude, latitude⟩, disposition⟩ := r
  obtain ⟨broker', topic', privateKey', publicKey', uid', ⟨longitude', latitude'⟩, disposition'⟩ := r'
  simp only [toJson, Location.toJson, Disposition.toJson, Value.real, Value.object.injEq,
    Value.text.injEq, Value.number.injEq, Number.real.injEq, List.cons.injEq, Prod.mk.injEq, true_and,
    and_true] at same
  obtain ⟨rfl, rfl, rfl, rfl, rfl, ⟨rfl, rfl⟩, named⟩ := same
  rw [Disposition.wireName_injective named]

namespace Registrar

/-- A claim asks the encoder for one thing only: the stream of its device. -/
theorem claim_asks {E : Type} (enc : Encoder E) (e : E) (r : ClaimRequest) (s : Registrar Store) :
    ∀ x ∈ ((claim r s).attend enc e).exchanges, ∃ location deviceKeys publicKey,
      r.validate = .ok location ∧
        x.call = .createStream (requested r location deviceKeys publicKey) := by
  have ends := claim_attend enc e r s
  generalize (claim r s).attend enc e = done at ends
  cases ends with
  | refused | unregistered => exact fun _ none => absurd none List.not_mem_nil
  | uncreated begins | unrecorded begins | claimed begins =>
    rw [List.forall_mem_singleton]
    exact ⟨_, _, _, begins.valid, rfl⟩

end Registrar

namespace EncoderClient

/-- What a client posts for a call, one after the other, to a network that replies as told. -/
def posts (client : EncoderClient) (replies : Posted → Option Reply) (c : EncoderCall) :
    List Posted :=
  let network : Network (StateM (List Posted)) := fun p => do
    modify (· ++ [p])
    return replies p
  ((client.call network c).run []).2

variable {client : EncoderClient} {replies : Posted → Option Reply} {c : EncoderCall}

theorem posts_eq {url : Url} (address : client.endpoint c.method = .ok url)
    (reachable : isReachable (withoutCredentials url) = true) :
    client.posts replies c = [⟨url, c.toJson.write⟩] := by
  rw [posts, call_of_reachable address reachable]
  rfl

/-- Whatever is posted is the call itself. -/
theorem body_of_mem_posts {p : Posted} (posted : p ∈ client.posts replies c) :
    p.body = c.toJson.write := by
  cases address : client.endpoint c.method with
  | error e =>
    simp only [posts, call, address] at posted
    exact absurd posted List.not_mem_nil
  | ok url =>
    by_cases reachable : isReachable (withoutCredentials url) = true
    · rw [posts_eq address reachable, List.mem_singleton] at posted
      rw [posted]
    · simp only [posts, call, address, reachable] at posted
      exact absurd posted List.not_mem_nil

/-- Whatever is posted for the streams of devices, and whatever their texts contain, each message is an
object of JSON with the members of the request in their order, each with its own value, and it tells
nothing else. So is what is posted for the deletion of a stream. One message is posted if it can be
posted at all; messages for different requests are different; and what a claim asks for is the stream of
its device, where it may stand. -/
theorem posts_faithfully {request request' : StreamRequest} {token token' : String}
    (topic : request.topic = deviceTopic token) (topic' : request'.topic = deviceTopic token')
    (finite : request.location.IsFinite) (finite' : request'.location.IsFinite)
    (client client' : EncoderClient) (replies replies' : Posted → Option Reply) :
    (∀ p ∈ client.posts replies (.createStream request), Carries p.body (.object [
      ("broker_address", .text request.broker),
      ("device_topic", .text ("device/sck/" ++ token ++ "/readings")),
      ("device_private_key", .text request.devicePrivateKey),
      ("recipient_public_key", .text request.recipientPublicKey),
      ("user_uid", .text request.userUid),
      ("location", .object [("longitude", .real request.location.longitude),
        ("latitude", .real request.location.latitude)]),
      ("disposition", .text request.disposition.wireName)])) ∧
    (∀ uid, ∀ p ∈ client.posts replies (.deleteStream uid),
      Carries p.body (.object [("stream_uid", .text uid)])) ∧
    (∀ c url, client.endpoint c.method = .ok url → isReachable (withoutCredentials url) = true →
      ∃ body, client.posts replies c = [⟨url, body⟩]) ∧
    (∀ p ∈ client.posts replies (.createStream request),
      ∀ p' ∈ client'.posts replies' (.createStream request'),
        p.body = p'.body → request = request' ∧ token = token') ∧
    (∀ uid uid', ∀ p ∈ client.posts replies (.deleteStream uid),
      ∀ p' ∈ client'.posts replies' (.deleteStream uid'), p.body = p'.body → uid = uid') ∧
    ∀ {E : Type} (enc : Encoder E) (e : E) (r : ClaimRequest) (s : Registrar Store),
      ∀ x ∈ ((Registrar.claim r s).attend enc e).exchanges, ∃ location privateKey publicKey,
        r.location = some location ∧ location.IsFinite ∧
        x.call = .createStream ⟨r.broker, deviceTopic r.deviceToken, privateKey, publicKey, r.userUid,
          location, r.disposition⟩ := by
  have deletion (uid : String) : Carries (EncoderCall.deleteStream uid).toJson.write
      (.object [("stream_uid", .text uid)]) :=
    (written_object (List.forall_mem_singleton.2 (written_text uid))).carries
  refine ⟨?_, ?_, ?_, ?_, ?_, ?_⟩
  · intro p posted
    have carried := (StreamRequest.written finite).carries
    rw [body_of_mem_posts posted]
    refine (congrArg (Carries request.toJson.write) ?_).mp carried
    rw [StreamRequest.toJson, topic]
    rfl
  · intro uid p posted
    rw [body_of_mem_posts posted]
    exact deletion uid
  · exact fun c url address reachable => ⟨_, posts_eq address reachable⟩
  · intro p posted p' posted' same
    rw [body_of_mem_posts posted, body_of_mem_posts posted'] at same
    have carried := (StreamRequest.written finite').carries
    have carried' : Carries request'.toJson.write request.toJson :=
      same ▸ (StreamRequest.written finite).carries
    obtain rfl := StreamRequest.toJson_injective (carried'.unique carried)
    exact ⟨rfl, deviceTopic_injective (topic.symm.trans topic')⟩
  · intro uid uid' p posted p' posted' same
    rw [body_of_mem_posts posted, body_of_mem_posts posted'] at same
    have one := (same ▸ deletion uid).unique (deletion uid')
    simpa using one
  · intro E enc e r s x exchanged
    obtain ⟨location, deviceKeys, publicKey, valid, asked⟩ := Registrar.claim_asks enc e r s x exchanged
    obtain ⟨given, finite⟩ := ClaimRequest.location_of_validate valid
    exact ⟨location, deviceKeys.privateKey, publicKey, given, finite, asked⟩

/-- A request with texts that look like ends of texts, brackets and further members. -/
def hostileRequest : StreamRequest where
  broker := "tcp://\"broker\"\\"
  topic := deviceTopic "spare\",\"user_uid\":\"mallory"
  devicePrivateKey := "line\nline\x00"
  recipientPublicKey := "\x7b[]\x7d"
  userUid := "alice"
  location := Registrar.aliceStands

/-- The message still names Alice, and it is not the one for the device that the token begins with. -/
theorem posts_faithfully_hostile :
    let plain := { hostileRequest with topic := deviceTopic "spare" }
    ∃ p p', localClient.posts (fun _ => none) (.createStream hostileRequest) = [p] ∧
      localClient.posts (fun _ => none) (.createStream plain) = [p'] ∧
      hostileRequest.location.IsFinite ∧
      Carries p.body (.object [("broker_address", .text "tcp://\"broker\"\\"),
        ("device_topic", .text "device/sck/spare\",\"user_uid\":\"mallory/readings"),
        ("device_private_key", .text "line\nline\x00"),
        ("recipient_public_key", .text "\x7b[]\x7d"),
        ("user_uid", .text "alice"),
        ("location", .object [("longitude", .real hostileRequest.location.longitude),
          ("latitude", .real hostileRequest.location.latitude)]),
        ("disposition", .text "INDOOR")]) ∧
      p.body ≠ p'.body := by
  intro plain
  have finite : hostileRequest.location.IsFinite := ⟨by decide, by decide⟩
  obtain ⟨carried, -, sent, apart, -⟩ :=
    @posts_faithfully hostileRequest plain _ _ rfl rfl finite finite localClient localClient
      (fun _ => none) (fun _ => none)
  obtain ⟨url, address, reachable, -⟩ := localClient_receives hostileRequest default
  obtain ⟨body, one⟩ := sent (.createStream hostileRequest) url address reachable
  obtain ⟨body', one'⟩ := sent (.createStream plain) url address reachable
  have posted := one ▸ List.mem_singleton_self _
  have posted' := one' ▸ List.mem_singleton_self _
  refine ⟨_, _, one, one', finite, carried _ posted, fun same => ?_⟩
  exact absurd (apart _ posted _ posted' same).2 (by decide)

end EncoderClient
end DeviceRegistry
