import DeviceRegistry.Proofs.Http.Answers
import DeviceRegistry.Proofs.Registrar.Accounting

/-! What an answer by HTTP tells of the calls that the encoder was given for it. A request that was
rejected, or that asks for something else, has not been the reason for any. -/
namespace DeviceRegistry

/-- How many exchanges were of a method and had an outcome. -/
def tally (method : EncoderMethod) (status : CallStatus) (exchanges : List Exchange) : Nat :=
  exchanges.countP fun x => x.call.method = method ∧ CallStatus.of x.answer = status

namespace Attempt

theorem message_plain (attempt : Attempt) : ':' ∉ attempt.message.toList := by
  cases attempt <;> simp [message]

theorem message_injective {attempt attempt' : Attempt}
    (same : attempt.message = attempt'.message) : attempt = attempt' := by
  cases attempt <;> cases attempt' <;> simp [message] at same ⊢

/-- A message begins with one attempt only. -/
theorem of_isPrefix {attempt attempt' : Attempt} {rest : List Char}
    (begins : (attempt.message ++ ": ").toList <+: (attempt'.message ++ ": ").toList ++ rest) :
    attempt = attempt' := by
  obtain ⟨more, same⟩ := begins
  -- No message has a colon in it, so that both are what stands in front of the first one.
  have front (a : Attempt) (more : List Char) :
      ((a.message ++ ": ").toList ++ more).takeWhile (· ≠ ':') = a.message.toList := by
    rw [String.toList_append, List.append_assoc, List.takeWhile_append_of_pos]
    · simp
    · intro c listed
      have other : c ≠ ':' := fun same => a.message_plain (same ▸ listed)
      simpa using other
  have fronts := congrArg (List.takeWhile (· ≠ ':')) same
  rw [front, front] at fronts
  exact message_injective (String.toList_inj.1 fronts)

end Attempt

namespace Http
open Registrar

/-- The request calls the method that has the route. -/
def Request.calls (r : Request) (route : Route) : Bool :=
  r.method == "POST" && Route.ofPath? r.path == some route

/-- The answer tells that an attempt failed. -/
def Response.failedTo (response : Response) (attempt : Attempt) : Bool :=
  match Json.read Problem.shape.read response.body with
  | .ok p => response.status == 500 &&
      (attempt.message ++ ": ").toList.isPrefixOf p.message.toList
  | .error _ => false

/-- What a request exchanged with the encoder, read off its answer. A request that was refused before
the encoder was called has exchanged nothing. -/
structure Request.Tallies (r : Request) (exchanges : List Exchange) (response : Response) : Prop where
  uncreated : tally .createStream .error exchanges =
    (r.calls .claim && response.failedTo .createStream).toNat
  created : tally .createStream .success exchanges =
    (r.calls .claim && response.status == 200).toNat +
      (r.calls .claim && response.failedTo .recordStream).toNat
  undeleted : tally .deleteStream .error exchanges =
    (r.calls .revoke && response.failedTo .deleteStream).toNat
  deleted : r.calls .revoke = false → tally .deleteStream .success exchanges = 0
  refused : response.status ≠ 200 → (∀ attempt ∈ encoderAttempts, response.failedTo attempt = false) →
    exchanges = []
  elsewhere : r.calls .claim = false → r.calls .revoke = false → exchanges = []

namespace Request.Tallies

variable {r : Request} {exchanges : List Exchange} {response response' : Response}

/-- A request that calls neither method exchanges nothing. -/
theorem none (claim : r.calls .claim = false) (revoke : r.calls .revoke = false)
    (response : Response) : r.Tallies [] response where
  uncreated := by simp [tally, claim]
  created := by simp [tally, claim]
  undeleted := by simp [tally, revoke]
  deleted := fun _ => rfl
  refused := fun _ _ => rfl
  elsewhere := fun _ _ => rfl

theorem congr (h : r.Tallies exchanges response) (status : response'.status = response.status)
    (body : response'.body = response.body) : r.Tallies exchanges response' := by
  have same : ∀ attempt, response'.failedTo attempt = response.failedTo attempt := by
    intro attempt
    rw [Response.failedTo, Response.failedTo, status, body]
  obtain ⟨uncreated, created, undeleted, deleted, refused, elsewhere⟩ := h
  simp only [← same, ← status] at uncreated created undeleted refused
  exact ⟨uncreated, created, undeleted, deleted, refused, elsewhere⟩

end Request.Tallies

theorem failedTo_of_status {response : Response} (other : response.status ≠ 500)
    (attempt : Attempt) : response.failedTo attempt = false := by
  rw [Response.failedTo]
  cases Json.read Problem.shape.read response.body with
  | ok p => simp [other]
  | error e => rfl

/-- A failure is told by what was attempted, and by nothing else. -/
theorem failedTo_failed (attempt attempt' : Attempt) (fault : Fault) :
    (problemResponse (RegistrationError.failed attempt fault).toProblem).failedTo attempt' =
      decide (attempt' = attempt) := by
  have read : Json.read Problem.shape.read
      (problemResponse (RegistrationError.failed attempt fault).toProblem).body =
        .ok (RegistrationError.failed attempt fault).toProblem :=
    (RegistrationError.failed attempt fault).toProblem.reads.read
  have message : (RegistrationError.failed attempt fault).toProblem.message.toList =
      (attempt.message ++ ": ").toList ++ fault.message.toList := String.toList_append
  have status : (problemResponse (RegistrationError.failed attempt fault).toProblem).status = 500 :=
    rfl
  rw [Response.failedTo, read, status]
  dsimp only
  rw [message, beq_self_eq_true, Bool.true_and, Bool.eq_iff_iff, List.isPrefixOf_iff_prefix,
    decide_eq_true_iff]
  constructor
  · exact Attempt.of_isPrefix
  · rintro rfl
    exact List.prefix_append ..

theorem calls_claim_revoke {r : Request} (calls : r.calls .claim = true) :
    r.calls .revoke = false := by
  simp only [Request.calls, Bool.and_eq_true, beq_iff_eq] at calls
  simp [Request.calls, calls.2]

theorem calls_revoke_claim {r : Request} (calls : r.calls .revoke = true) :
    r.calls .claim = false := by
  simp only [Request.calls, Bool.and_eq_true, beq_iff_eq] at calls
  simp [Request.calls, calls.2]

/-- A request that was refused before the encoder was called. -/
theorem tallies_refused {r : Request} {response : Response} (status : response.status ≠ 200)
    (early : ∀ attempt ∈ encoderAttempts, response.failedTo attempt = false) :
    r.Tallies [] response := by
  have other : (response.status == 200) = false := beq_eq_false_iff_ne.2 status
  simp only [encoderAttempts, List.mem_cons, List.not_mem_nil, or_false, forall_eq_or_imp, forall_eq]
    at early
  exact {
    uncreated := by simp [tally, early]
    created := by simp [tally, early, other]
    undeleted := by simp [tally, early]
    deleted := fun _ => rfl
    refused := fun _ _ => rfl
    elsewhere := fun _ _ => rfl }

/-- A problem that does not lie inside was found before the encoder was called. -/
theorem tallies_problem {r : Request} {p : Problem} (rejects : p.code ≠ .internal) :
    r.Tallies [] (problemResponse p) := by
  have status : (problemResponse p).status ≠ 200 ∧ (problemResponse p).status ≠ 500 := by
    show p.code.status ≠ 200 ∧ p.code.status ≠ 500
    revert rejects
    cases p.code <;> decide
  exact tallies_refused status.1 fun attempt _ => failedTo_of_status status.2 attempt

theorem tallies_early {r : Request} {e : RegistrationError} (early : Early e) :
    r.Tallies [] (problemResponse e.toProblem) := by
  cases early with
  | invalid argument message => exact tallies_problem (by rintro ⟨⟩)
  | @failed attempt before fault =>
    have status : (problemResponse (RegistrationError.failed attempt fault).toProblem).status = 500 :=
      rfl
    refine tallies_refused (by rw [status]; decide) fun attempt' listed => ?_
    rw [failedTo_failed, decide_eq_false_iff_not]
    rintro rfl
    exact before listed

theorem tallies_claim {r : Request} (calls : r.calls .claim = true) {exchanges : List Exchange}
    {outcome : Outcome ClaimResponse} (h : ClaimTally (fun _ => True) exchanges outcome) :
    r.Tallies exchanges (outcomeResponse ClaimResponse.toJson outcome) := by
  have other := calls_claim_revoke calls
  have failed (attempt : Attempt) (fault : Fault) : (outcomeResponse ClaimResponse.toJson
      (.error (.failed attempt fault))).status = 500 := rfl
  have told (attempt attempt' : Attempt) (fault : Fault) : (outcomeResponse ClaimResponse.toJson
      (.error (.failed attempt fault))).failedTo attempt' = decide (attempt' = attempt) :=
    failedTo_failed attempt attempt' fault
  cases h with
  | early early => exact tallies_early early
  | uncreated request e =>
    constructor <;> simp [tally, encoderAttempts, calls, other, told, failed, EncoderCall.method,
      CallStatus.of]
  | unrecorded request uid fault =>
    constructor <;> simp [tally, encoderAttempts, calls, other, told, failed, EncoderCall.method,
      CallStatus.of]
  | @claimed request uid response =>
    have status : (outcomeResponse ClaimResponse.toJson (.ok response)).status = 200 := rfl
    have fine (attempt : Attempt) :
        (outcomeResponse ClaimResponse.toJson (.ok response)).failedTo attempt = false :=
      failedTo_of_status (by rw [status]; decide) attempt
    constructor <;> simp [tally, calls, other, fine, status, EncoderCall.method, CallStatus.of]

/-- Streams that are deleted are counted as such, and as nothing else. -/
theorem tally_deletions (streams : List StreamRow) :
    (∀ status, tally .createStream status (streams.map deletion) = 0) ∧
      tally .deleteStream .error (streams.map deletion) = 0 := by
  simp [tally, deletion, EncoderCall.method, CallStatus.of]

theorem tallies_revoke {r : Request} (calls : r.calls .revoke = true) {exchanges : List Exchange}
    {outcome : Outcome RevokeResponse} (h : RevokeTally exchanges outcome) :
    r.Tallies exchanges (outcomeResponse RevokeResponse.toJson outcome) := by
  have other := calls_revoke_claim calls
  cases h with
  | early early none refused =>
    rw [none, refused]
    exact tallies_early early
  | @swept streams swept =>
    cases swept with
    | all =>
      have status : (outcomeResponse RevokeResponse.toJson (.ok {})).status = 200 := rfl
      have fine (attempt : Attempt) :
          (outcomeResponse RevokeResponse.toJson (.ok {})).failedTo attempt = false :=
        failedTo_of_status (by rw [status]; decide) attempt
      obtain ⟨creates, errors⟩ := tally_deletions streams
      constructor <;> simp [calls, other, fine, status, creates, errors]
    | @stopped gone rest stream e error split failed message =>
      obtain rfl := failed
      have status : (outcomeResponse RevokeResponse.toJson
          (.error (.failed .deleteStream (.encoder e)))).status = 500 := rfl
      have told : (outcomeResponse RevokeResponse.toJson
          (.error (.failed .deleteStream (.encoder e)))).failedTo .deleteStream = true :=
        (failedTo_failed .deleteStream .deleteStream (.encoder e)).trans (by decide)
      obtain ⟨creates, errors⟩ := tally_deletions gone
      have split (method : EncoderMethod) (status : CallStatus) :
          tally method status (gone.map deletion ++ [⟨.deleteStream stream.uid, .error e⟩]) =
            tally method status (gone.map deletion) +
              tally method status [⟨.deleteStream stream.uid, .error e⟩] := List.countP_append
      have last : (∀ status, tally .createStream status
          [⟨.deleteStream stream.uid, .error e⟩] = 0) ∧
          tally .deleteStream .error [⟨.deleteStream stream.uid, .error e⟩] = 1 := by
        simp [tally, EncoderCall.method, CallStatus.of]
      constructor <;>
        simp [encoderAttempts, calls, other, told, status, split, creates, errors, last]

/-- What comes of a call, however it is answered by HTTP. -/
theorem answer_accounts {α : Type} {s : Registrar Store} {method : String} {work : Work Store α}
    {toJson : α → Json.Value} {total : List Exchange → Outcome α → Prop}
    {told : List Exchange → Response → Prop}
    (works : (work s).state.metrics = s.metrics ∧ (work s).Accounts total)
    (tells : ∀ exchanges outcome, total exchanges outcome →
      told exchanges (outcomeResponse toJson outcome)) :
    (answer method work toJson s).state.metrics = s.metrics ∧
      (answer method work toJson s).Accounts told := by
  obtain ⟨same, accounts⟩ := works
  have going : ∀ (outcome : Outcome α) (t : Registrar Store), Counts t t.metrics
      (Progress.finished (outcomeResponse toJson outcome) (noteOutcome method outcome t)).state := by
    intro outcome t
    obtain ⟨-, keys, metrics⟩ := noteOutcome_unmoved method outcome t
    exact ⟨keys, metrics⟩
  rw [answer_eq]
  constructor
  · exact (Progress.state_bind Registrar.metrics fun a s => (going a s).metrics).trans same
  · refine accounts.bind going fun exchanges outcome t h => ?_
    have told := tells exchanges outcome h
    rwa [← List.append_nil exchanges] at told

/-- A request that is answered at once has exchanged nothing. -/
theorem accounts_at_once {s : Registrar Store} {response : Response}
    {told : List Exchange → Response → Prop} (h : told [] response) :
    (Progress.finished response s).state.metrics = s.metrics ∧
      (Progress.finished response s).Accounts told :=
  ⟨rfl, h⟩

variable {r : Request} {s : Registrar Store}

theorem handle_accounts {α β : Type} {method : String} {shape : Json.Shape α}
    {work : α → Work Store β} {toJson : β → Json.Value} {total : List Exchange → Outcome β → Prop}
    (works : ∀ message, (work message s).state.metrics = s.metrics ∧ (work message s).Accounts total)
    (tells : ∀ exchanges outcome, total exchanges outcome →
      r.Tallies exchanges (outcomeResponse toJson outcome)) :
    (handle r method shape work toJson s).state.metrics = s.metrics ∧
      (handle r method shape work toJson s).Accounts r.Tallies := by
  rw [handle]
  cases r.decode shape with
  | error e => exact accounts_at_once (tallies_problem (by rintro ⟨⟩))
  | ok message => exact answer_accounts (works message) tells

theorem readiness_eq (s : Registrar Store) :
    readiness s = .paused s fun t =>
      match (attempting .reachStore Backend.ping : EStateM RegistrationError Store Unit) t.store with
      | .ok _ store => .finished (.json 200 (readyJson "ok" "ok")) { t with store }
      | .error e store => .finished (.json 503 (readyJson "degraded" e.message))
          { t with store, log := t.log ++ [.notReady e] } := by
  show Progress.paused s _ = _
  congr 1
  funext t
  show ((Flow.ofStep (storeWork (attempting .reachStore Backend.ping)) t).bind _) = _
  rw [Flow.ofStep, storeWork]
  cases (attempting .reachStore Backend.ping : EStateM RegistrationError Store Unit) t.store <;> rfl

/-- Whether the store answers is found out without the encoder. -/
theorem readiness_accounts {told : List Exchange → Response → Prop}
    (silent : ∀ response, told [] response) :
    (readiness s).state.metrics = s.metrics ∧ (readiness s).Accounts told := by
  rw [readiness_eq]
  refine ⟨rfl, fun t => ?_⟩
  dsimp only
  cases (attempting .reachStore Backend.ping : EStateM RegistrationError Store Unit) t.store with
  | ok done store => exact ⟨.none rfl rfl, silent _⟩
  | error e store => exact ⟨.none rfl rfl, silent _⟩

theorem route_accounts {route : Route} (known : Route.ofPath? r.path = some route)
    (answers : route.answers r.method = true) :
    (route.respond r s).state.metrics = s.metrics ∧ (route.respond r s).Accounts r.Tallies := by
  have calls (other : Route) : r.calls other = (r.method == "POST" && route == other) := by
    rw [Request.calls, known]
    rfl
  cases route with
  | claim =>
    have posted : r.calls .claim = true := by
      rw [calls, show (r.method == "POST") = true from answers]
      rfl
    exact handle_accounts (fun q => claim_accounts q s) fun _ _ => tallies_claim posted
  | revoke =>
    have posted : r.calls .revoke = true := by
      rw [calls, show (r.method == "POST") = true from answers]
      rfl
    exact handle_accounts (fun q => revoke_accounts q s) fun _ _ => tallies_revoke posted
  | pulse | live | metrics =>
    exact accounts_at_once (.none (by simp [calls]) (by simp [calls]) _)
  | ready => exact readiness_accounts (.none (by simp [calls]) (by simp [calls]))

theorem routed_accounts (r : Request) (s : Registrar Store) :
    (routed r s).state.metrics = s.metrics ∧ (routed r s).Accounts r.Tallies := by
  rw [routed]
  cases known : Route.ofPath? r.path with
  | none => exact accounts_at_once (tallies_problem (by rintro ⟨⟩))
  | some route =>
    dsimp only
    by_cases answers : route.answers r.method = true
    · rw [if_pos answers]
      exact route_accounts known answers
    · rw [if_neg answers]
      split
      · have missed (message : String) : r.Tallies [] (badRoute r message) :=
          tallies_problem (by rintro ⟨⟩)
        exact accounts_at_once ((missed _).congr rfl rfl)
      · have status : (405 : Nat) ≠ 200 ∧ (405 : Nat) ≠ 500 := by decide
        exact accounts_at_once
          (tallies_refused status.1 fun attempt _ => failedTo_of_status status.2 attempt)

/-- Whatever is asked, what is exchanged with the encoder is counted, and can be read off the answer. -/
theorem respond_accounts (freshId : String) (r : Request) (s : Registrar Store) :
    (respond freshId r s).state.metrics = s.metrics ∧ (respond freshId r s).Accounts r.Tallies := by
  rw [respond]
  by_cases options : (r.method == "OPTIONS") = true
  · have other : (r.method == "POST") = false := by
      rw [beq_iff_eq] at options
      rw [options]
      decide
    rw [if_pos options]
    exact accounts_at_once (.none (by simp [Request.calls, other]) (by simp [Request.calls, other]) _)
  · rw [if_neg options]
    obtain ⟨same, accounts⟩ := routed_accounts r s
    refine ⟨(Progress.state_bind Registrar.metrics fun _ _ => rfl).trans same, ?_⟩
    refine accounts.bind (fun _ _ => .none rfl rfl) fun exchanges response t tallies => ?_
    rw [← List.append_nil exchanges] at tallies
    by_cases head : (r.method == "HEAD") = true
    · -- A request for headers only calls neither method, whatever its body would have told.
      have other : (r.method == "POST") = false := by
        rw [beq_iff_eq] at head
        rw [head]
        decide
      have claim : r.calls .claim = false := by simp [Request.calls, other]
      have revoke : r.calls .revoke = false := by simp [Request.calls, other]
      have silent := tallies.elsewhere claim revoke
      show r.Tallies (exchanges ++ []) _
      rw [silent]
      exact .none claim revoke _
    · exact tallies.congr rfl (if_neg head)

end Http
end DeviceRegistry
