import DeviceRegistry.Proofs.Encoder.Delivery
import DeviceRegistry.Proofs.Http.Metering
import DeviceRegistry.Proofs.Registrar.Recording

/-! What the replies of the encoder come to. -/
namespace DeviceRegistry
open Registrar

namespace Http

/-- What a request sets going is a claim, a revoke, a look at the store or nothing, and its answer is
made up when that is done. -/
theorem respond_works {works : Registrar Store → Progress (Registrar Store) Response → Prop}
    (atOnce : ∀ s response, works s (.finished response s))
    (ready : ∀ s, works s (readiness s))
    (claims : ∀ q s, works s (answer "ClaimDevice" (claim q) ClaimResponse.toJson s))
    (revokes : ∀ q s, works s (answer "RevokeDevice" (revoke q) RevokeResponse.toJson s))
    (delivers : ∀ {s p} (deliver : Response → Response), works s p →
      works s (p.bind fun response => .finished (deliver response)))
    (freshId : String) (r : Request) (s : Registrar Store) : works s (respond freshId r s) := by
  have handled {α β : Type} {method : String} {shape : Json.Shape α} {work : α → Work Store β}
      {toJson : β → Json.Value} (answers : ∀ q, works s (answer method (work q) toJson s)) :
      works s (handle r method shape work toJson s) := by
    rw [handle]
    cases r.decode shape with
    | error e => exact atOnce s _
    | ok q => exact answers q
  have routed : works s (routed r s) := by
    rw [routed]
    cases Route.ofPath? r.path with
    | none => exact atOnce s _
    | some route =>
      dsimp only
      split
      · cases route with
        | claim => exact handled fun q => claims q s
        | revoke => exact handled fun q => revokes q s
        | pulse | live | metrics => exact atOnce s _
        | ready => exact ready s
      · split <;> exact atOnce s _
  rw [respond]
  split
  · exact atOnce s _
  · exact delivers _ routed

variable {named : String → Prop}

/-- The work records no other streams than `named` tells, and none before it goes on. -/
def RecordsOnly (named : String → Prop) (s : Registrar Store)
    (p : Progress (Registrar Store) Response) : Prop :=
  p.state.store = s.store ∧ p.Records named

theorem answer_records {α : Type} {method : String} {work : Work Store α} {toJson : α → Json.Value}
    {s : Registrar Store} (same : (work s).state.store = s.store) (h : (work s).Records named) :
    RecordsOnly named s (answer method work toJson s) := by
  rw [answer_eq]
  have store (outcome : Outcome α) (t : Registrar Store) :=
    (noteOutcome_unmoved method outcome t).store
  exact ⟨(Progress.state_bind Registrar.store store).trans same, h.bind store fun _ _ => trivial⟩

theorem readiness_records (s : Registrar Store) : RecordsOnly named s (readiness s) := by
  rw [readiness_eq]
  refine ⟨rfl, fun t => ?_⟩
  have pinged : stateAfter ((Backend.ping : EStateM StoreError Store Unit) t.store) = t.store := by
    dsimp only [Backend.ping]
    cases t.store.ping <;> rfl
  have same := (stateAfter_attempting .reachStore
    (Backend.ping : EStateM StoreError Store Unit) t.store).trans pinged
  dsimp only
  cases reached : (attempting .reachStore Backend.ping : EStateM RegistrationError Store Unit)
      t.store with
  | ok done store =>
    rw [reached] at same
    exact ⟨.of_same same, trivial⟩
  | error e store =>
    rw [reached] at same
    exact ⟨.of_same same, trivial⟩

theorem respond_records (freshId : String) (r : Request) (s : Registrar Store) :
    RecordsOnly named s (respond freshId r s) := by
  refine respond_works (fun _ _ => ⟨rfl, trivial⟩) readiness_records ?_ ?_ ?_ freshId r s
  · exact fun q s => answer_records (Call.claim q |>.work_turns s).1 (claim_records q s)
  · exact fun q s => answer_records (Call.revoke q |>.work_turns s).1 (revoke_records q s)
  · intro s p deliver h
    exact ⟨(Progress.state_bind Registrar.store fun _ _ => rfl).trans h.1,
      h.2.bind (fun _ _ => rfl) fun _ _ => trivial⟩

/-- A request that succeeded has had no call fail. -/
theorem Request.Tallies.succeeded {r : Request} {exchanges : List Exchange} {response : Response}
    (h : r.Tallies exchanges response) (status : response.status = 200) :
    ∀ x ∈ exchanges, ∃ answer, x.answer = .ok answer := by
  have told (attempt : Attempt) : response.failedTo attempt = false :=
    failedTo_of_status (by rw [status]; decide) attempt
  have none (method : EncoderMethod) : tally method .error exchanges = 0 := by
    cases method with
    | createStream => rw [h.uncreated, told, Bool.and_false, Bool.toNat_false]
    | deleteStream => rw [h.undeleted, told, Bool.and_false, Bool.toNat_false]
  rintro ⟨call, answer⟩ listed
  cases answer with
  | ok answer => exact ⟨answer, rfl⟩
  | error e =>
    have counted := List.countP_eq_zero.1 (none call.method) _ listed
    exact absurd (decide_eq_true ⟨rfl, rfl⟩) counted

namespace Traffic

theorem Step.exchanges_subset {traffic traffic' : Traffic} (h : Step traffic traffic') :
    traffic.exchanges ⊆ traffic'.exchanges := by
  cases h <;> intro x <;> simp only [exchanges, List.flatMap_append, List.flatMap_cons,
    List.mem_append] <;> tauto

/-- Each request records no other streams than the encoder created for it. -/
theorem Step.records {traffic traffic' : Traffic} (h : Step traffic traffic')
    (records : ∀ errand ∈ traffic.errands,
      (∀ x ∈ errand.exchanges, x.Names named) → errand.progress.Records named) :
    ∀ errand ∈ traffic'.errands,
      (∀ x ∈ errand.exchanges, x.Names named) → errand.progress.Records named := by
  refine h.each (fun freshId r now _ => (respond_records freshId r now).2)
    (fun own now names => (own names now).2) (fun own answer time now names => ?_) records
  rw [List.forall_mem_append, List.forall_mem_singleton] at names
  exact (own names.1 answer time now names.2).2

theorem mem_exchanges {traffic : Traffic} {errand : Errand} {x : Exchange}
    (listed : errand ∈ traffic.errands) (exchanged : x ∈ errand.exchanges) : x ∈ traffic.exchanges :=
  List.mem_flatMap.2 ⟨errand, listed, exchanged⟩

theorem Step.gains {traffic traffic' : Traffic} (h : Step traffic traffic')
    (records : ∀ errand ∈ traffic.errands,
      (∀ x ∈ errand.exchanges, x.Names named) → errand.progress.Records named)
    (names : ∀ x ∈ traffic'.exchanges, x.Names named) :
    traffic.registrar.GainsStreams named traffic'.registrar := by
  cases h with
  | arrived now errands freshId r => exact .of_same (@respond_records named freshId r now).1
  | @resumed now before after r exchanges s resume =>
    have own := records _ (List.mem_append_right _ List.mem_cons_self)
    refine (own (fun x exchanged => names x ?_) now).1
    exact mem_exchanges (List.mem_append_right _ List.mem_cons_self) exchanged
  | @answered now before after r exchanges s asked resume answer time =>
    have own := records _ (List.mem_append_right _ List.mem_cons_self)
    have named (x : Exchange) (exchanged : x ∈ exchanges ++ [⟨asked, answer⟩]) : x.Names named :=
      names x (mem_exchanges (List.mem_append_right _ List.mem_cons_self) exchanged)
    rw [List.forall_mem_append, List.forall_mem_singleton] at named
    exact (own named.1 answer time now named.2).1

/-- All streams that were not there before are streams that the encoder created in the meantime. -/
theorem Run.gains {start : Registrar Store} {traffic : Traffic} (run : Run start traffic)
    (names : ∀ x ∈ traffic.exchanges, x.Names named) :
    start.GainsStreams named traffic.registrar ∧ ∀ errand ∈ traffic.errands,
      (∀ x ∈ errand.exchanges, x.Names named) → errand.progress.Records named := by
  induction run with
  | start => exact ⟨.of_same rfl, nofun⟩
  | step run next ih =>
    obtain ⟨before, records⟩ := ih fun x exchanged => names x (next.exchanges_subset exchanged)
    exact ⟨before.trans (next.gains records names), next.records records⟩

/-- What a call to the encoder gives is decided by the reply: by its status and, in a way that depends
on the status, by what its body tells, whatever the text. When all that is exchanged is exchanged with
clients, a stream is recorded only under the uid that a successful reply gives it, which is never empty,
and a request succeeds only if all its calls were replied to successfully. -/
theorem run_heeds_replies {start : Registrar Store} {traffic : Traffic} (run : Run start traffic)
    (delivered : ∀ x ∈ traffic.exchanges, x.Delivered) :
    (∀ (client : EncoderClient) (network : Network Id) (reply : Reply),
      (∀ request, client.Receives network (.createStream request) reply → ∀ outcome,
        (client.call network (.createStream request)).run = outcome ↔ reply.Creates outcome) ∧
      (∀ uid, client.Receives network (.deleteStream uid) reply → ∀ outcome,
        (client.call network (.deleteStream uid)).run = outcome ↔ reply.Deletes outcome)) ∧
    (∀ s : String,
      (∀ uid, Json.read Reply.createdShape.read (.ofText s) = .ok uid ↔
        ∃ v, Json.Tells (.ofText s) v ∧ Reply.created? v = some uid) ∧
      (Json.read Reply.deletedShape.read (.ofText s) = .ok () ↔
        ∃ v, Json.Tells (.ofText s) v ∧ Reply.deleted? v = some ()) ∧
      (∀ e, Json.read Reply.refusalShape.read (.ofText s) = .ok e ↔
        ∃ v, Json.Tells (.ofText s) v ∧ Reply.refusal? v = some e) ∧
      (Bytes.ofText s).lossyText = s) ∧
    start.GainsStreams (fun uid => uid ≠ "" ∧ ∃ request,
      ⟨.createStream request, .ok uid⟩ ∈ traffic.exchanges ∧
      Exchange.Accepted ⟨.createStream request, .ok uid⟩) traffic.registrar ∧
    ∀ errand ∈ traffic.errands, ∀ response, errand.response? = some response →
      response.status = 200 → ∀ x ∈ errand.exchanges, x.Accepted := by
  refine ⟨fun client network reply => ⟨fun request received outcome => ?_,
    fun uid received outcome => ?_⟩, fun s => ⟨Reply.created_read s, Reply.deleted_read s,
    Reply.refusal_read s, Bytes.lossyText_ofText s⟩, (run.gains ?_).1, ?_⟩
  · rw [EncoderClient.call_of_receives received]
    exact reply.answer_createStream request outcome
  · rw [EncoderClient.call_of_receives received]
    exact reply.answer_deleteStream uid outcome
  · rintro _ exchanged request uid rfl
    have accepted := (delivered _ exchanged).accepted rfl
    obtain ⟨client, network, reply, -, -, told⟩ := id accepted
    exact ⟨reply.named_of_answer told, request, exchanged, accepted⟩
  · intro errand listed response answered status x exchanged
    obtain ⟨answer, succeeded⟩ := (run.tallies listed answered).succeeded status x exchanged
    exact (delivered x (mem_exchanges listed exchanged)).accepted succeeded

/-- Alice claims a device, and a successful reply gives her the only stream that is recorded. -/
theorem run_heeds_replies_alice : ∃ start traffic, start.store.Fresh ∧ Run start traffic ∧
    (∀ x ∈ traffic.exchanges, x.Delivered) ∧
    (∃ request, traffic.exchanges = [⟨.createStream request, .ok "stream"⟩]) ∧
    (∀ id b, traffic.registrar.store.tables.streams.get? id = some b →
      ∃ row : StreamRow, b = StoredRow.encode row ∧ row.uid = "stream") ∧
    ∀ x ∈ traffic.exchanges, x.Accepted := by
  obtain ⟨start, traffic, -, fresh, run, -, answered, request, all⟩ := alice_answered
  have delivered : ∀ x ∈ traffic.exchanges, x.Delivered := by
    rw [all, List.forall_mem_singleton]
    exact Exchange.delivered_oneStream request
  obtain ⟨-, -, recorded, succeeded⟩ := run_heeds_replies run delivered
  refine ⟨start, traffic, fresh, run, delivered, ⟨request, all⟩, ?_, ?_⟩
  · intro id b there
    rcases recorded id b there with before | ⟨row, encoded, -, asked, created, -⟩
    · obtain ⟨_, ⟨⟩, -⟩ := fresh.holds.streams.exists_row before
    · rw [all, List.mem_singleton, Exchange.mk.injEq] at created
      obtain ⟨same, given⟩ := created
      cases same
      exact ⟨row, encoded, Except.ok.inj (eq_of_heq given)⟩
  · intro x exchanged
    obtain ⟨errand, listed, own⟩ := List.mem_flatMap.1 exchanged
    obtain ⟨response, given, status⟩ := answered errand listed
    exact succeeded errand listed response given status x own

end Traffic
end Http
end DeviceRegistry
