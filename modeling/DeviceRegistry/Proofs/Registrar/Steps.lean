import DeviceRegistry.Proofs.Encoder.Flow
import DeviceRegistry.Registrar.Basic

/-! Claiming and revoking as sequences of turns. Each turn works on the store at most once, and at
its beginning: it registers, records or removes. -/
namespace DeviceRegistry.Registrar

variable {S T : Type} [Records T] [Backend S T] {α β : Type}

abbrev Outcome (α : Type) := Except RegistrationError α

theorem bind_finished {x : Work S α} {f : α → Work S β} {s t : Registrar S} {a : α}
    (h : x s = .finished (.ok a) t) : (x >>= f) s = f a t := by
  show (x s).bind _ = _
  rw [h]
  rfl

theorem bind_failed {x : Work S α} {f : α → Work S β} {s t : Registrar S} {e : RegistrationError}
    (h : x s = .finished (.error e) t) : (x >>= f) s = .finished (.error e) t := by
  show (x s).bind _ = _
  rw [h]
  rfl

theorem lift_bind (x : Outcome α) (f : α → Work S β) (s : Registrar S) :
    ((liftM x : Work S α) >>= f) s =
      match x with
      | .ok a => f a s
      | .error e => .finished (.error e) s := by
  cases x <;> rfl

/-- The next key pair, if there is one; the source has moved on either way. -/
theorem nextKeys_bind (attempt : Attempt) (f : KeyPair → Work S β) (s : Registrar S) :
    (nextKeys attempt >>= f) s =
      match s.keys.pair s.keys.used with
      | .ok keys => f keys { s with keys.used := s.keys.used + 1 }
      | .error e =>
        .finished (.error (.failed attempt (.keys e))) { s with keys.used := s.keys.used + 1 } := by
  have run : nextKeys attempt s = ((match s.keys.pair s.keys.used with
    | .ok keys => pure keys
    | .error e => throw (.failed attempt (.keys e))) : Work S KeyPair)
      { s with keys.used := s.keys.used + 1 } := rfl
  cases made : s.keys.pair s.keys.used with
  | ok keys => exact bind_finished (run.trans (by rw [made]; rfl))
  | error e => exact bind_failed (run.trans (by rw [made]; rfl))

theorem noteIfVerbose_bind (n : Notice) (f : PUnit → Work S β) (s : Registrar S) :
    (noteIfVerbose n >>= f) s =
      f ⟨⟩ (if s.verbose then { s with log := s.log ++ [n] } else s) := by
  have run : noteIfVerbose n s = (if s.verbose then note n else pure () : Work S PUnit) s := rfl
  by_cases talks : s.verbose = true
  · rw [if_pos talks]
    exact bind_finished (run.trans (by rw [if_pos talks]; rfl))
  · rw [if_neg talks]
    exact bind_finished (run.trans (by rw [if_neg talks]; rfl))

theorem measured_bind (c : EncoderCall) (f : Except EncoderError c.Answer → Work S β)
    (s : Registrar S) :
    (measured c >>= f) s = .calling c s fun answer time s =>
      f answer { s with metrics := s.metrics.observe c.method (.of answer) time } := rfl

def storeWork (op : EStateM RegistrationError S α) : EStateM RegistrationError (Registrar S) α :=
  fun r =>
    match op r.store with
    | .ok a store => .ok a { r with store }
    | .error e store => .error e { r with store }

theorem onStore_bind (op : EStateM RegistrationError S α) (f : α → Work S β) (s : Registrar S) :
    (onStore op >>= f) s = .paused s fun s =>
      match op s.store with
      | .ok a store => f a { s with store }
      | .error e store => .finished (.error e) { s with store } := by
  show Progress.paused s _ = _
  congr 1
  funext s
  show (Flow.ofStep (storeWork op) s).bind (ExceptT.bindCont f) = _
  rw [Flow.ofStep, storeWork]
  cases op s.store <;> rfl

/-- The turn in which a claim is undone, for the reason `e`. -/
def undoing (token publicKey : String) (e : RegistrationError) (s : Registrar S) :
    Progress (Registrar S) (Outcome β) :=
  match removeDevice token publicKey s.store with
  | .ok _ store => .finished (.error e) { s with store }
  | .error e' store => .finished (.error e) { s with store, log := s.log ++ [.undoFailed token e'] }

theorem undoing_bind (token publicKey : String) (e : RegistrationError) (f : α → Work S β)
    (s : Registrar S) :
    (undoing token publicKey e s).bind (ExceptT.bindCont f) = undoing token publicKey e s := by
  rw [undoing, undoing]
  cases removeDevice token publicKey s.store <;> rfl

theorem undoClaim_eq (token publicKey : String) (e : RegistrationError) (s : Registrar S) :
    (do undoClaim token publicKey; throw e : Work S β) s =
      .paused s (undoing token publicKey e) := by
  show Progress.paused _ _ = .paused _ _
  congr 1
  funext s
  show (((Flow.ofStep (storeWork (removeDevice token publicKey)) s).bind _).bind _).bind _ = _
  rw [Flow.ofStep, storeWork, undoing]
  cases removeDevice token publicKey s.store <;> rfl

def response (d : Registered) : ClaimResponse :=
  ⟨d.user.keys.privateKey, d.user.keys.publicKey, d.device.keys.publicKey⟩

/-- The turn in which a claim records its stream. -/
def recording (r : ClaimRequest) (d : Registered) (uid : String) (s : Registrar S) :
    Progress (Registrar S) (Outcome ClaimResponse) :=
  match recordStream d.device.id uid s.store with
  | .ok _ store => .finished (.ok (response d)) { s with store }
  | .error e store =>
    .paused { s with store, log := s.log ++ [.streamOrphaned uid r.deviceToken e] }
      (undoing r.deviceToken d.user.keys.publicKey e)

theorem recordStream_eq (r : ClaimRequest) (d : Registered) (uid : String) (s : Registrar S) :
    (do
      try onStore (recordStream d.device.id uid)
      catch e =>
        note (.streamOrphaned uid r.deviceToken e)
        undoClaim r.deviceToken d.user.keys.publicKey
        throw e
      return response d : Work S ClaimResponse) s = .paused s (recording r d uid) := by
  show Progress.paused _ _ = .paused _ _
  congr 1
  funext s
  show ((Flow.ofStep (storeWork (recordStream d.device.id uid)) s).bind _).bind _ = _
  rw [Flow.ofStep, storeWork, recording]
  cases recordStream d.device.id uid s.store with
  | ok _ store => rfl
  | error e store =>
    let t : Registrar S := { s with store, log := s.log ++ [.streamOrphaned uid r.deviceToken e] }
    show Progress.bind ((do undoClaim _ _; throw e : Work S PUnit) t) _ = _
    rw [undoClaim_eq]
    exact congrArg (Progress.paused t) (funext (undoing_bind _ _ e _))

/-- How a claim goes on with the encoder's answer. -/
def answered (r : ClaimRequest) (d : Registered) (answer : Except EncoderError String)
    (s : Registrar S) : Progress (Registrar S) (Outcome ClaimResponse) :=
  match answer with
  | .error e =>
    .paused s <|
      undoing r.deviceToken d.user.keys.publicKey (.failed .createStream (.encoder e))
  | .ok uid => .paused s (recording r d uid)

/-- The stream that a claim has the encoder create. -/
def streamRequest (r : ClaimRequest) (location : Location) (d : Registered) : StreamRequest where
  broker := r.broker
  topic := deviceTopic r.deviceToken
  devicePrivateKey := d.device.keys.privateKey
  recipientPublicKey := d.user.keys.publicKey
  userUid := r.userUid
  location := location
  disposition := r.disposition

/-- Where a claim stands that has registered `d`: it waits for the encoder. -/
def waiting (r : ClaimRequest) (location : Location) (d : Registered) (s : Registrar S) :
    Progress (Registrar S) (Outcome ClaimResponse) :=
  .calling (.createStream (streamRequest r location d)) s fun answer time s =>
    answered r d answer { s with metrics := s.metrics.observe .createStream (.of answer) time }

/-- The turn in which a claim registers its device. -/
def registering (r : ClaimRequest) (location : Location) (userKeys deviceKeys : KeyPair)
    (s : Registrar S) : Progress (Registrar S) (Outcome ClaimResponse) :=
  match register r location userKeys deviceKeys s.store with
  | .error e store => .finished (.error e) { s with store }
  | .ok d store => waiting r location d { s with store }

theorem claim_eq (r : ClaimRequest) (s : Registrar S) :
    claim r s =
      match r.validate with
      | .error e => .finished (.error e) s
      | .ok location =>
        let s := if s.verbose then { s with log := s.log ++ [.claiming r] } else s
        match s.keys.pair s.keys.used with
        | .error e =>
          .finished (.error (.failed .userKeys (.keys e))) { s with keys.used := s.keys.used + 1 }
        | .ok userKeys =>
          match s.keys.pair (s.keys.used + 1) with
          | .error e =>
            .finished (.error (.failed .deviceKeys (.keys e)))
              { s with keys.used := s.keys.used + 2 }
          | .ok deviceKeys =>
            .paused { s with keys.used := s.keys.used + 2 }
              (registering r location userKeys deviceKeys) := by
  apply (lift_bind _ _ s).trans
  cases r.validate with
  | error e => rfl
  | ok location =>
  apply (noteIfVerbose_bind _ _ s).trans
  dsimp only
  generalize (if s.verbose then { s with log := s.log ++ [.claiming r] } else s) = s
  apply (nextKeys_bind _ _ _).trans
  cases s.keys.pair s.keys.used with
  | error e => rfl
  | ok userKeys =>
  apply (nextKeys_bind _ _ _).trans
  dsimp only
  cases s.keys.pair (s.keys.used + 1) with
  | error e => rfl
  | ok deviceKeys =>
  apply (onStore_bind _ _ _).trans
  congr 1
  funext s
  rw [registering]
  cases register r location userKeys deviceKeys s.store with
  | error e store => rfl
  | ok d store =>
  apply (measured_bind _ _ _).trans
  congr 1
  funext answer time s
  cases answer with
  | error e => exact undoClaim_eq ..
  | ok uid => exact recordStream_eq r d uid _

/-- The turn in which a revoke removes its device. -/
def removing (r : RevokeRequest) (s : Registrar S) :
    Progress (Registrar S) (Outcome RevokeResponse) :=
  match removeDevice r.deviceToken r.userPublicKey s.store with
  | .error e store => .finished (.error e) { s with store }
  | .ok removed store =>
    (do deleteStreams r.deviceToken removed.streams; return {} : Work S RevokeResponse)
      { s with store }

theorem revoke_eq (r : RevokeRequest) (s : Registrar S) :
    revoke r s =
      match r.validate with
      | .error e => .finished (.error e) s
      | .ok _ =>
        .paused (if s.verbose then { s with log := s.log ++ [.revoking r] } else s)
          (removing r) := by
  apply (lift_bind _ _ s).trans
  cases r.validate with
  | error e => rfl
  | ok _ =>
  apply (noteIfVerbose_bind _ _ s).trans
  apply (onStore_bind _ _ _).trans
  congr 1
  funext s
  rw [removing]
  cases removeDevice r.deviceToken r.userPublicKey s.store <;> rfl

end DeviceRegistry.Registrar
