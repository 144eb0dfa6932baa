import DeviceRegistry.Proofs.Registrar.Refusals

/-! Requests are refused for an argument by validation and by nothing else, over any store, with any
answers of the encoder, and whatever others do between two turns. -/
namespace DeviceRegistry.Registrar

variable {S T : Type} [Records T] [Backend S T] {α β : Type}

/-- Not refused for an argument. -/
def Admitted (outcome : Outcome α) : Prop :=
  ∀ argument message, outcome ≠ .error (.invalidArgument argument message)

theorem admitted_ok (a : α) : Admitted (.ok a) := nofun

theorem admitted_failed (attempt : Attempt) (fault : Fault) :
    Admitted (.error (.failed attempt fault) : Outcome α) := nofun

theorem FailsAt.admitted {σ : Type} {op : EStateM RegistrationError σ α} {attempts : List Attempt}
    (h : FailsAt attempts op) {s t : σ} {e : RegistrationError} (failed : op s = .error e t) :
    Admitted (.error e : Outcome β) := by
  obtain ⟨attempt, fault, rfl⟩ := h.inside s e t failed
  exact admitted_failed attempt fault

theorem undoing_ends {e : RegistrationError} (admitted : Admitted (.error e : Outcome β))
    (token publicKey : String) (s : Registrar S) :
    (undoing token publicKey e s : Progress _ (Outcome β)).Ends Admitted := by
  rw [undoing]
  cases removeDevice token publicKey s.store <;> exact admitted

theorem answered_ends (r : ClaimRequest) (d : Registered) (answer : Except EncoderError String)
    (s : Registrar S) : (answered r d answer s).Ends Admitted := by
  cases answer with
  | error e => exact undoing_ends (admitted_failed _ _) _ _
  | ok uid =>
    intro s
    rw [recording]
    cases run : recordStream d.device.id uid s.store with
    | ok _ store => exact admitted_ok _
    | error e store =>
      obtain ⟨ops, equal, fails⟩ := @FailsAt.recordStream_transaction S T _ _ d.device.id uid
      rw [equal] at run
      exact undoing_ends (fails.any_transaction.admitted run) _ _

theorem registering_ends (r : ClaimRequest) (location : Location) (userKeys deviceKeys : KeyPair)
    (s : Registrar S) :
    (registering r location userKeys deviceKeys s).Ends Admitted := by
  rw [registering]
  cases run : register r location userKeys deviceKeys s.store with
  | ok d store => exact fun answer time s => answered_ends r d answer _
  | error e store =>
    obtain ⟨ops, equal, fails⟩ :=
      @FailsAt.register_transaction S T _ _ r location userKeys deviceKeys
    rw [equal] at run
    exact fails.any_transaction.admitted run

/-- A claim that is valid is not refused for an argument later. -/
theorem claim_ends {r : ClaimRequest} {location : Location} (valid : r.validate = .ok location)
    (s : Registrar S) : (claim r s).Ends Admitted := by
  rw [claim_eq, valid]
  dsimp only
  split
  · exact admitted_failed _ _
  · split
    · exact admitted_failed _ _
    · exact registering_ends _ _ _ _

theorem deleteStreams_ends (token : String) (streams : List StreamRow) (a : α) (s : Registrar S) :
    ((do deleteStreams token streams; return a : Work S α) s).Ends Admitted := by
  induction streams generalizing s with
  | nil => exact admitted_ok a
  | cons stream rest ih =>
    intro answer time s
    cases answer with
    | ok => exact ih _
    | error e => exact admitted_failed _ _

/-- A revoke that is valid is not refused for an argument later. -/
theorem revoke_ends {r : RevokeRequest} (valid : r.validate = .ok ()) (s : Registrar S) :
    (revoke r s).Ends Admitted := by
  rw [revoke_eq, valid]
  intro s
  rw [removing]
  cases run : removeDevice r.deviceToken r.userPublicKey s.store with
  | ok removed store => exact deleteStreams_ends _ _ _ _
  | error e store =>
    obtain ⟨ops, equal, fails⟩ :=
      @FailsAt.removeDevice_transaction S T _ _ r.deviceToken r.userPublicKey
    rw [equal] at run
    exact fails.any_transaction.admitted run

/-- A check decides whether a call is refused for an argument. A call that it refuses is over before
it makes keys, calls the encoder or begins a transaction, in the state `s` in which it arrived; any
other never comes to such a refusal. -/
structure DecidedBy (checked : Except RegistrationError α) (s : Registrar S)
    (call : Progress (Registrar S) (Outcome β)) : Prop where
  refused : ∀ e, checked = .error e → call = .finished (.error e) s
  refused_iff : ∀ others turns outcome t, call.Reaches others turns (.finished outcome t) →
    ∀ argument message, outcome = .error (.invalidArgument argument message) ↔
      checked = .error (.invalidArgument argument message)

theorem decidedBy {checked : Except RegistrationError α} {s : Registrar S}
    {call : Progress (Registrar S) (Outcome β)}
    (refused : ∀ e, checked = .error e → call = .finished (.error e) s)
    (ends : ∀ a, checked = .ok a → call.Ends Admitted) : DecidedBy checked s call where
  refused := refused
  refused_iff others turns outcome t run argument message := by
    cases valid : checked with
    | ok a =>
      have admitted : Admitted outcome := run.ends (ends a valid)
      exact ⟨fun h => absurd h (admitted argument message), nofun⟩
    | error e =>
      rw [refused e valid] at run
      cases run
      rw [Except.error.injEq, Except.error.injEq]

/-- Validation tells the first requirement that a request does not meet, and decides on its own which
requests are refused for an argument. -/
theorem validation_decides (r : ClaimRequest) (q : RevokeRequest) (s : Registrar S) :
    (∀ l, r.validate = .ok l ↔ r.deviceToken ≠ "" ∧ r.broker ≠ "" ∧ r.userUid ≠ "" ∧
      r.location = some l ∧ l.IsPlace) ∧
    (∀ e, r.validate = .error e ↔ FirstUnmet r.requirements e) ∧
    (q.validate = .ok () ↔ q.deviceToken ≠ "" ∧ q.userPublicKey ≠ "") ∧
    (∀ e, q.validate = .error e ↔ FirstUnmet q.requirements e) ∧
    DecidedBy r.validate s (claim r s) ∧ DecidedBy q.validate s (revoke q s) := by
  refine ⟨fun l => ClaimRequest.validate_ok, fun e => ClaimRequest.validate_eq_error,
    RevokeRequest.validate_ok, fun e => RevokeRequest.validate_eq_error,
    decidedBy (fun e invalid => ?_) fun location valid => claim_ends valid s,
    decidedBy (fun e invalid => ?_) fun _ valid => revoke_ends valid s⟩
  · rw [claim_eq, invalid]
  · rw [revoke_eq, invalid]

/-- A claim whose longitude is a negative zero and whose latitude is not a number is refused for the
longitude, and nothing has happened. -/
theorem validation_decides_unplaced :
    ∃ s : Registrar Store,
      claim ⟨"meter", "alice", some ⟨.neg .zero, .nan⟩, .indoor, "mqtt"⟩ s =
        .finished (.error (.invalidArgument "longitude" "longitude is required")) s := by
  obtain ⟨s, -⟩ := exists_fresh numberedKeys numberedKeys_usable
  obtain ⟨-, error_iff, -, -, decided, -⟩ :=
    validation_decides ⟨"meter", "alice", some ⟨.neg .zero, .nan⟩, .indoor, "mqtt"⟩ ⟨"", ""⟩ s
  have missing : (Binary64.neg .zero).IsMissing := Binary64.isMissing_iff.2 (by decide)
  refine ⟨s, decided.refused _ ((error_iff _).2 ?_)⟩
  refine .later ?_ <| .later ?_ <| .later ?_ <| .later ?_ <| .here ?_
  · simp
  · simp
  · simp
  · simp
  · simpa using missing

end DeviceRegistry.Registrar
