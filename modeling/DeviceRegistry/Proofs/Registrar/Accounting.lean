import DeviceRegistry.Proofs.Registrar.Refusals

/-! What claims and revokes exchange with the encoder, told together with what they give. Each exchange
is counted in the turn in which it is answered, and nothing else is. -/
namespace DeviceRegistry
open Registrar

variable {α β : Type}

namespace Registrar

/-- A turn from `s` to `t` that draws no keys and leaves the metrics as they are told. -/
structure Counts (s : Registrar Store) (metrics : Metrics) (t : Registrar Store) : Prop where
  keys : t.keys = s.keys
  metrics : t.metrics = metrics

theorem Counts.none {s t : Registrar Store} (keys : t.keys = s.keys) (metrics : t.metrics = s.metrics) :
    Counts s s.metrics t :=
  ⟨keys, metrics⟩

end Registrar

namespace Progress

/-- Work that counts what it exchanges with the encoder, and draws no keys. At its end `tally` holds of
all that it exchanged and of what it gives, however the encoder answers and whatever others do. -/
def Accounts : Progress (Registrar Store) α → (List Exchange → α → Prop) → Prop
  | finished value _, tally => tally [] value
  | paused _ resume, tally =>
    ∀ s, Counts s s.metrics (resume s).state ∧ (resume s).Accounts tally
  | calling call _ resume, tally => ∀ answer time s,
    Counts s (s.metrics.observe call.method (.of answer) time) (resume answer time s).state ∧
      (resume answer time s).Accounts fun exchanges => tally (⟨call, answer⟩ :: exchanges)

variable {p : Progress (Registrar Store) α} {f : α → Registrar Store → Progress (Registrar Store) β}
  {tally tally' : List Exchange → α → Prop} {total : List Exchange → β → Prop}

theorem Accounts.mono (h : p.Accounts tally)
    (weaker : ∀ exchanges value, tally exchanges value → tally' exchanges value) :
    p.Accounts tally' := by
  induction p generalizing tally tally' with
  | finished value s => exact weaker _ _ h
  | paused s resume ih => exact fun s => ⟨(h s).1, ih s (h s).2 weaker⟩
  | calling call s resume ih =>
    exact fun answer time s =>
      ⟨(h answer time s).1, ih answer time s (h answer time s).2 fun _ => weaker _⟩

/-- What goes on in the same turn leaves alone what it leaves alone by itself. -/
theorem state_bind {σ γ : Type} {p : Progress σ α} {f : α → σ → Progress σ β} (part : σ → γ)
    (going : ∀ a s, part (f a s).state = part s) : part (p.bind f).state = part p.state := by
  cases p with
  | finished value t => exact going value t
  | paused t resume => rfl
  | calling call t resume => rfl

theorem bind_counts {s : Registrar Store} {metrics : Metrics}
    (going : ∀ a s, Counts s s.metrics (f a s).state) (h : Counts s metrics p.state) :
    Counts s metrics (p.bind f).state :=
  ⟨(state_bind Registrar.keys fun a s => (going a s).keys).trans h.keys,
    (state_bind Registrar.metrics fun a s => (going a s).metrics).trans h.metrics⟩

/-- What is exchanged later is added to what was exchanged before. -/
theorem Accounts.bind (h : p.Accounts tally) (going : ∀ a s, Counts s s.metrics (f a s).state)
    (rest : ∀ exchanges a s, tally exchanges a →
      (f a s).Accounts fun later => total (exchanges ++ later)) : (p.bind f).Accounts total := by
  induction p generalizing tally total with
  | finished value s => exact rest [] value s h
  | paused s resume ih =>
    intro s
    obtain ⟨counts, accounts⟩ := h s
    exact ⟨bind_counts going counts, ih s accounts rest⟩
  | calling call s resume ih =>
    intro answer time s
    obtain ⟨counts, accounts⟩ := h answer time s
    exact ⟨bind_counts going counts,
      ih answer time s accounts fun exchanges => rest (⟨call, answer⟩ :: exchanges)⟩

end Progress

namespace Registrar

variable {σ : Type}

/-- What is attempted when the encoder is called, or later. -/
def encoderAttempts : List Attempt := [.createStream, .recordStream, .deleteStream]

/-- The error stems from what comes before the encoder is called. -/
inductive Early : RegistrationError → Prop where
  | invalid (argument message : String) : Early (.invalidArgument argument message)
  | failed {attempt : Attempt} (before : attempt ∉ encoderAttempts) (fault : Fault) :
      Early (.failed attempt fault)

theorem FailsAt.early {attempts : List Attempt} {op : EStateM RegistrationError σ α}
    (h : FailsAt attempts op)
    (before : ∀ attempt ∈ attempts, attempt ∉ encoderAttempts)
    {s t : σ} {e : RegistrationError} (failed : op s = .error e t) : Early e := by
  obtain ⟨attempt, listed, fault, rfl⟩ := h s e t failed
  exact .failed (before attempt listed) fault

/-- What a claim exchanged, and what it gives. It has one stream created at most, and none before its
device is registered; the local removal that undoes it is no exchange. -/
inductive ClaimTally (given : ClaimResponse → Prop) :
    List Exchange → Outcome ClaimResponse → Prop where
  | early {e : RegistrationError} (early : Early e) : ClaimTally given [] (.error e)
  | uncreated (request : StreamRequest) (e : EncoderError) :
      ClaimTally given [⟨.createStream request, .error e⟩]
        (.error (.failed .createStream (.encoder e)))
  | unrecorded (request : StreamRequest) (uid : String) (fault : Fault) :
      ClaimTally given [⟨.createStream request, .ok uid⟩] (.error (.failed .recordStream fault))
  | claimed (request : StreamRequest) (uid : String) {response : ClaimResponse}
      (mine : given response) :
      ClaimTally given [⟨.createStream request, .ok uid⟩] (.ok response)

theorem ClaimTally.mono {given given' : ClaimResponse → Prop}
    (weaker : ∀ response, given response → given' response) {exchanges : List Exchange}
    {outcome : Outcome ClaimResponse} (h : ClaimTally given exchanges outcome) :
    ClaimTally given' exchanges outcome := by
  cases h with
  | early early => exact .early early
  | uncreated request e => exact .uncreated request e
  | unrecorded request uid fault => exact .unrecorded request uid fault
  | claimed request uid mine => exact .claimed request uid (weaker _ mine)

/-- What a revoke exchanged, and what it gives. -/
inductive RevokeTally (exchanges : List Exchange) (outcome : Outcome RevokeResponse) : Prop where
  | early {e : RegistrationError} (early : Early e) (none : exchanges = [])
      (refused : outcome = .error e)
  | swept {streams : List StreamRow} (swept : Sweeps {} streams exchanges outcome)

theorem undoing_accounts (token publicKey : String) (e : RegistrationError) (s : Registrar Store) :
    Counts s s.metrics (undoing token publicKey e s : Progress _ (Outcome α)).state ∧
      (undoing token publicKey e s : Progress _ (Outcome α)).Accounts fun exchanges outcome =>
        exchanges = [] ∧ outcome = .error e := by
  rw [undoing]
  cases removeDevice token publicKey s.store with
  | ok => exact ⟨.none rfl rfl, rfl, rfl⟩
  | error => exact ⟨.none rfl rfl, rfl, rfl⟩

theorem recording_accounts (r : ClaimRequest) (d : Registered) (request : StreamRequest)
    (uid : String) (s : Registrar Store) :
    Counts s s.metrics (recording r d uid s).state ∧
      (recording r d uid s).Accounts fun exchanges =>
        ClaimTally (· = response d) (⟨.createStream request, .ok uid⟩ :: exchanges) := by
  rw [recording]
  cases recorded : recordStream d.device.id uid s.store with
  | ok => exact ⟨.none rfl rfl, .claimed request uid rfl⟩
  | error e =>
    refine ⟨.none rfl rfl, fun t => ?_⟩
    obtain ⟨counts, accounts⟩ := undoing_accounts r.deviceToken d.user.keys.publicKey e t
    refine ⟨counts, accounts.mono ?_⟩
    rintro _ _ ⟨rfl, rfl⟩
    obtain ⟨attempt, listed, fault, rfl⟩ := FailsAt.recordStream _ _ _ _ _ recorded
    obtain rfl := List.mem_singleton.1 listed
    exact .unrecorded request uid fault

theorem answered_accounts (r : ClaimRequest) (d : Registered) (request : StreamRequest)
    (answer : Except EncoderError String) (s : Registrar Store) :
    Counts s s.metrics (answered r d answer s).state ∧
      (answered r d answer s).Accounts fun exchanges =>
        ClaimTally (· = response d) (⟨.createStream request, answer⟩ :: exchanges) := by
  cases answer with
  | ok uid => exact ⟨.none rfl rfl, recording_accounts r d request uid⟩
  | error e =>
    refine ⟨.none rfl rfl, fun t => ?_⟩
    obtain ⟨counts, accounts⟩ := undoing_accounts r.deviceToken d.user.keys.publicKey
      (.failed .createStream (.encoder e)) t
    refine ⟨counts, accounts.mono ?_⟩
    rintro _ _ ⟨rfl, rfl⟩
    exact .uncreated request e

theorem waiting_accounts (r : ClaimRequest) (location : Location) (d : Registered)
    (s : Registrar Store) :
    (waiting r location d s).Accounts (ClaimTally (· = response d)) := by
  intro answer time t
  obtain ⟨⟨keys, metrics⟩, accounts⟩ := answered_accounts r d (streamRequest r location d) answer
    { t with metrics := t.metrics.observe .createStream (.of answer) time }
  exact ⟨⟨keys, metrics⟩, accounts⟩

theorem registering_accounts (r : ClaimRequest) (location : Location)
    (userKeys deviceKeys : KeyPair) (s : Registrar Store) :
    Counts s s.metrics (registering r location userKeys deviceKeys s).state ∧
      (registering r location userKeys deviceKeys s).Accounts (ClaimTally fun _ => True) := by
  rw [registering]
  cases registered : register r location userKeys deviceKeys s.store with
  | ok d store =>
    have accounts := waiting_accounts r location d { s with store }
    exact ⟨.none rfl rfl, accounts.mono fun _ _ => ClaimTally.mono fun _ _ => trivial⟩
  | error e store =>
    have early := (FailsAt.register r location userKeys deviceKeys).early (by decide) registered
    exact ⟨.none rfl rfl, .early early⟩

/-- A claim has exchanged nothing and counted nothing when it arrives. -/
theorem claim_accounts (r : ClaimRequest) (s : Registrar Store) :
    (claim r s).state.metrics = s.metrics ∧ (claim r s).Accounts (ClaimTally fun _ => True) := by
  rw [claim_eq]
  cases valid : r.validate with
  | error e =>
    obtain ⟨argument, message, rfl⟩ := ClaimRequest.validate_error valid
    exact ⟨rfl, .early (.invalid argument message)⟩
  | ok location =>
    obtain ⟨-, -, same⟩ := Unmoved.noted (.claiming r) s
    dsimp only
    generalize (if s.verbose then { s with log := s.log ++ [.claiming r] } else s) = s' at same ⊢
    cases s'.keys.pair s'.keys.used with
    | error e => exact ⟨same, .early (.failed (by decide) (.keys e))⟩
    | ok userKeys =>
      dsimp only
      cases s'.keys.pair (s'.keys.used + 1) with
      | error e => exact ⟨same, .early (.failed (by decide) (.keys e))⟩
      | ok deviceKeys => exact ⟨same, registering_accounts r location userKeys deviceKeys⟩

theorem deleteStreams_accounts (token : String) (streams : List StreamRow) (s : Registrar Store) :
    (deleteStreams token streams s : Progress _ (Outcome Unit)).Accounts (Sweeps () streams) := by
  induction streams generalizing s with
  | nil => exact .all
  | cons stream rest ih =>
    rw [deleteStreams, measured_bind]
    intro answer time t
    cases answer with
    | ok done =>
      let t' : Registrar Store :=
        { t with metrics := t.metrics.observe .deleteStream .success time }
      obtain ⟨same, -⟩ := @deleteStreams_turns (fun _ => True) token rest t'
      have counts : Counts t t'.metrics (deleteStreams token rest t' : Progress _ _).state := by
        rw [same]
        exact ⟨rfl, rfl⟩
      exact ⟨counts, (ih t').mono fun _ _ swept => swept.cons stream⟩
    | error e =>
      exact ⟨⟨rfl, rfl⟩, @Sweeps.stopped _ () _ [] rest stream e _ rfl rfl rfl⟩

theorem removing_accounts (r : RevokeRequest) (s : Registrar Store) :
    Counts s s.metrics (removing r s).state ∧ (removing r s).Accounts RevokeTally := by
  rw [removing]
  cases removed : removeDevice r.deviceToken r.userPublicKey s.store with
  | error e store =>
    have early := (FailsAt.removeDevice _ _).early (by decide) removed
    exact ⟨.none rfl rfl, .early early rfl rfl⟩
  | ok d store =>
    obtain ⟨same, -⟩ :=
      @deleteStreams_turns (fun _ => True) r.deviceToken d.streams { s with store }
    have accounts := deleteStreams_accounts r.deviceToken d.streams { s with store }
    dsimp only
    rw [map_eq]
    constructor
    · rw [Progress.state_map, same]
      exact .none rfl rfl
    · refine accounts.bind (fun _ _ => .none rfl rfl) fun exchanges outcome t swept => ?_
      have mapped := swept.map fun _ => ({} : RevokeResponse)
      rw [← List.append_nil exchanges] at mapped
      exact .swept mapped

/-- A revoke has exchanged nothing and counted nothing when it arrives. -/
theorem revoke_accounts (r : RevokeRequest) (s : Registrar Store) :
    (revoke r s).state.metrics = s.metrics ∧ (revoke r s).Accounts RevokeTally := by
  rw [revoke_eq]
  cases valid : r.validate with
  | error e =>
    obtain ⟨argument, message, rfl⟩ := RevokeRequest.validate_error valid
    exact ⟨rfl, .early (.invalid argument message) rfl rfl⟩
  | ok =>
    refine ⟨?_, removing_accounts r⟩
    show Registrar.metrics (ite _ _ _) = _
    split <;> rfl

end Registrar
end DeviceRegistry
