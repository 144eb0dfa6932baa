import DeviceRegistry.Proofs.Encoder.Likeness
import DeviceRegistry.Proofs.Registrar.Runs
import DeviceRegistry.Proofs.Store.Likeness

/-! Two registrars that make different private keys. Claims and revokes go the same way at both:
they stop at the same places, answer the same but for the user's private key, and call the encoder
with the same but for the device's private key. -/
namespace DeviceRegistry

/-- Answers to claims that differ in the user's private key only. -/
structure ClaimResponse.Alike (secret : String → String → Prop) (response response' : ClaimResponse) :
    Prop where
  same : response' = { response with userPrivateKey := response'.userPrivateKey }
  secret : secret response.userPrivateKey response'.userPrivateKey

namespace KeySource

/-- The pair of that number is made for a user, if claims draw the pairs from the first one on. A
device's pair comes after a user's that could be made. -/
def forUser (pair : Nat → Except KeyError KeyPair) : Nat → Bool
  | 0 => true
  | n + 1 => !(forUser pair n && (pair n).isOk)

section

variable {pair : Nat → Except KeyError KeyPair} {n : Nat}

theorem forUser_of_error {e : KeyError} (failed : pair n = .error e) : forUser pair (n + 1) = true := by
  rw [forUser, failed]
  exact congrArg not (Bool.and_false _)

theorem forUser_of_made {keys : KeyPair} (mine : forUser pair n = true) (made : pair n = .ok keys) :
    forUser pair (n + 1) = false := by
  rw [forUser, mine, made]
  rfl

theorem forUser_of_device (other : forUser pair n = false) : forUser pair (n + 1) = true := by
  rw [forUser, other]
  rfl

end

/-- Sources that fail alike, and make the same public keys. The private keys of users are related,
and so are those of devices; the next pair is for a user. -/
structure Alike (user device : String → String → Prop) (keys keys' : KeySource) : Prop where
  pairs : ∀ n, Agree (KeyPair.Alike (if forUser keys.pair n then user else device)) (keys.pair n)
    (keys'.pair n)
  used : keys'.used = keys.used
  next : forUser keys.pair keys.used = true

namespace Alike

variable {user device : String → String → Prop} {keys keys' : KeySource} {n : Nat}

theorem users (h : keys.Alike user device keys') (mine : forUser keys.pair n = true) :
    Agree (KeyPair.Alike user) (keys.pair n) (keys'.pair n) := by
  have pairs := h.pairs n
  rwa [if_pos mine] at pairs

theorem devices (h : keys.Alike user device keys') (other : forUser keys.pair n = false) :
    Agree (KeyPair.Alike device) (keys.pair n) (keys'.pair n) := by
  have pairs := h.pairs n
  rwa [other, if_neg Bool.false_ne_true] at pairs

theorem onward (h : keys.Alike user device keys') (next : forUser keys.pair n = true) :
    ({ keys with used := n } : KeySource).Alike user device { keys' with used := n } :=
  ⟨h.pairs, rfl, next⟩

end Alike

end KeySource

/-- Stores that differ in the sealed private keys only. -/
structure Store.Alike (cipher : ColumnCipher) (secret : String → String → Prop) (s s' : Store) :
    Prop where
  tables : s.tables.Alike cipher secret s'.tables
  cipher : s.cipher = cipher ∧ s'.cipher = cipher
  entropy : s'.entropy = s.entropy

namespace Registrar

variable {cipher : ColumnCipher} {user device : String → String → Prop} {α α' : Type}
  {value : α → α' → Prop}

/-- Registrars that differ in the private keys that they store and make. -/
structure Alike (cipher : ColumnCipher) (user device : String → String → Prop)
    (s s' : Registrar Store) : Prop where
  store : s.store.Alike cipher user s'.store
  keys : s.keys.Alike user device s'.keys
  rest : s' = { s with store := s'.store, keys := s'.keys }

theorem attempting_alongside {σ : Type} {state : σ → σ → Prop} {x : EStateM StoreError σ α}
    {y : EStateM StoreError σ α'} (attempt : Attempt) (h : Alongside state value x y) :
    Alongside state value (attempting attempt x) (attempting attempt y) := by
  intro s s' states
  have outcome := h s s' states
  generalize left : x s = result at outcome
  generalize right : y s' = result' at outcome
  cases outcome with
  | ok values states =>
    rw [attempting_ok left, attempting_ok right]
    exact .ok values states
  | error e states =>
    rw [attempting_error left, attempting_error right]
    exact .error _ states

/-- Transactions are committed side by side, or given up for the same reason. -/
theorem transaction_alongside {ops : EStateM RegistrationError Transaction α}
    {ops' : EStateM RegistrationError Transaction α'} (commit : Attempt)
    (h : Alongside (Transaction.Alike cipher user) value ops ops') :
    Alongside (Store.Alike cipher user) value
      (transaction commit ops : EStateM RegistrationError Store α) (transaction commit ops') := by
  intro s s' stores
  have outcome := h s.begin s'.begin ⟨stores.tables, stores.cipher, stores.entropy⟩
  generalize left : ops s.begin = result at outcome
  generalize right : ops' s'.begin = result' at outcome
  cases outcome with
  | ok values states =>
    rw [transaction_ok left, transaction_ok right]
    exact .ok values ⟨states.tables, stores.cipher, states.entropy⟩
  | error e states =>
    rw [transaction_error left, transaction_error right]
    exact .error _ ⟨stores.tables, stores.cipher, states.entropy⟩

/-- What was registered differs in private keys only. -/
structure RegisteredAlike (user device : String → String → Prop) (d d' : Registered) : Prop where
  user : d.user.Alike user d'.user
  device : d.device.Alike device d'.device

variable {r : ClaimRequest} {location : Location} {userKeys userKeys' deviceKeys deviceKeys' : KeyPair}

theorem register_alongside (refl : ∀ key, user key key) (valid : r.validate = .ok location)
    (users : userKeys.Alike user userKeys') (devices : deviceKeys.Alike device deviceKeys') :
    Alongside (Store.Alike cipher user) (RegisteredAlike user device)
      (register r location userKeys deviceKeys) (register r location userKeys' deviceKeys') := by
  obtain ⟨-, finite⟩ := ClaimRequest.location_of_validate valid
  refine transaction_alongside _ ?_
  refine .bind (attempting_alongside _ (.upsertUser refl r.userUid users)) fun u u' owners => ?_
  have device : Alongside (Transaction.Alike cipher user) (Device.Alike device)
      (Transaction.insertDevice (newDevice r location u.id deviceKeys))
      (Transaction.insertDevice (newDevice r location u'.id deviceKeys')) := by
    have finite : (newDevice r location u.id deviceKeys).IsFinite := finite
    rw [owners.id]
    exact .insertDevice refl finite devices
  exact .bind (attempting_alongside _ device) fun d d' added => .pure ⟨owners, added⟩

theorem recordStream_alongside (deviceId : UInt64) (uid : String) :
    Alongside (Store.Alike cipher user) Eq (recordStream deviceId uid)
      (recordStream deviceId uid) :=
  transaction_alongside _ <|
    .bind_same (attempting_alongside _ (.insertStream deviceId uid)) fun _ => .pure rfl

theorem removeDevice_alongside (refl : ∀ key, user key key) (token publicKey : String) :
    Alongside (Store.Alike cipher user) Eq (removeDevice token publicKey)
      (removeDevice token publicKey) := by
  refine transaction_alongside _ ?_
  refine .bind_same (attempting_alongside _ (.deleteDevice refl token publicKey)) fun removed => ?_
  refine .bind_same (attempting_alongside _ (.countDevices removed.userId)) fun remaining => ?_
  refine .ite (.bind_same (attempting_alongside _ (.deleteUser refl removed.userId)) ?_) (.pure rfl)
  exact fun _ => .pure rfl

namespace Alike

variable {s s' : Registrar Store}

theorem withStore (h : s.Alike cipher user device s') {store store' : Store}
    (stores : store.Alike cipher user store') :
    ({ s with store } : Registrar Store).Alike cipher user device { s' with store := store' } := by
  refine ⟨stores, h.keys, ?_⟩
  rw [h.rest]

theorem withLog (h : s.Alike cipher user device s') (notice : Notice) :
    ({ s with log := s.log ++ [notice] } : Registrar Store).Alike cipher user device
      { s' with log := s'.log ++ [notice] } := by
  refine ⟨h.store, h.keys, ?_⟩
  rw [h.rest]

theorem withMetrics (h : s.Alike cipher user device s') (observe : Metrics → Metrics) :
    ({ s with metrics := observe s.metrics } : Registrar Store).Alike cipher user device
      { s' with metrics := observe s'.metrics } := by
  refine ⟨h.store, h.keys, ?_⟩
  rw [h.rest]

theorem withKeys (h : s.Alike cipher user device s') {keys keys' : KeySource}
    (sources : keys.Alike user device keys') :
    ({ s with keys } : Registrar Store).Alike cipher user device { s' with keys := keys' } := by
  refine ⟨h.store, sources, ?_⟩
  rw [h.rest]

theorem verbose (h : s.Alike cipher user device s') : s'.verbose = s.verbose := by
  rw [h.rest]

theorem withLogIfVerbose (h : s.Alike cipher user device s') (notice : Notice) :
    (if s.verbose then { s with log := s.log ++ [notice] } else s).Alike cipher user device
      (if s'.verbose then { s' with log := s'.log ++ [notice] } else s') := by
  by_cases talks : s.verbose = true
  · rw [if_pos talks, if_pos (h.verbose.trans talks)]
    exact h.withLog notice
  · rw [if_neg talks, if_neg (h.verbose ▸ talks)]
    exact h

end Alike

/-- Work that goes the same way at registrars that are alike. -/
abbrev Matching (cipher : ColumnCipher) (user device : String → String → Prop)
    (value : α → α' → Prop) (p : Progress (Registrar Store) (Outcome α))
    (q : Progress (Registrar Store) (Outcome α')) : Prop :=
  p.Matches (Alike cipher user device) (Agree value) device q

variable {s s' : Registrar Store} {d d' : Registered}

theorem onStore_matches {op : EStateM RegistrationError Store α}
    {op' : EStateM RegistrationError Store α'}
    (ops : Alongside (Store.Alike cipher user) value op op') (h : s.Alike cipher user device s') :
    Matching cipher user device value (onStore op s) (onStore op' s') := by
  refine .paused (fun t t' h => ?_) h
  have outcome := ops _ _ h.store
  show Matching cipher user device value (Flow.ofStep (storeWork op) t)
    (Flow.ofStep (storeWork op') t')
  rw [Flow.ofStep, storeWork, Flow.ofStep, storeWork]
  generalize op t.store = result at outcome ⊢
  generalize op' t'.store = result' at outcome ⊢
  cases outcome with
  | ok values stores => exact .finished (.ok values) (h.withStore stores)
  | error e stores => exact .finished (.error e) (h.withStore stores)

theorem undoing_matches (refl : ∀ key, user key key) (token publicKey : String)
    (e : RegistrationError) (h : s.Alike cipher user device s') :
    Matching cipher user device value (undoing token publicKey e s)
      (undoing token publicKey e s') := by
  have outcome := removeDevice_alongside refl token publicKey _ _ h.store
  rw [undoing, undoing]
  generalize removeDevice token publicKey s.store = result at outcome ⊢
  generalize removeDevice token publicKey s'.store = result' at outcome ⊢
  cases outcome with
  | ok _ stores => exact .finished (.error e) (h.withStore stores)
  | error e' stores => exact .finished (.error e) ((h.withStore stores).withLog _)

theorem recording_matches (refl : ∀ key, user key key) (registered : RegisteredAlike user device d d')
    (uid : String) (h : s.Alike cipher user device s') :
    Matching cipher user device (ClaimResponse.Alike user) (recording r d uid s)
      (recording r d' uid s') := by
  have outcome := recordStream_alongside d.device.id uid _ _ h.store
  have id := registered.device.id
  have publicKey := registered.user.publicKey
  rw [recording, recording, id, publicKey]
  generalize recordStream d.device.id uid s.store = result at outcome ⊢
  generalize recordStream d.device.id uid s'.store = result' at outcome ⊢
  cases outcome with
  | ok _ stores =>
    refine .finished (.ok ⟨?_, registered.user.secret⟩) (h.withStore stores)
    rw [response, publicKey, registered.device.publicKey]
    rfl
  | error e stores =>
    exact .paused (fun _ _ => undoing_matches refl _ _ e) ((h.withStore stores).withLog _)

theorem answered_matches (refl : ∀ key, user key key) (registered : RegisteredAlike user device d d')
    (answer : Except EncoderError String) (h : s.Alike cipher user device s') :
    Matching cipher user device (ClaimResponse.Alike user) (answered r d answer s)
      (answered r d' answer s') := by
  cases answer with
  | ok uid => exact .paused (fun _ _ => recording_matches refl registered uid) h
  | error e =>
    rw [answered, answered, registered.user.publicKey]
    exact .paused (fun _ _ => undoing_matches refl _ _ _) h

theorem waiting_matches (refl : ∀ key, user key key) (registered : RegisteredAlike user device d d')
    (h : s.Alike cipher user device s') :
    Matching cipher user device (ClaimResponse.Alike user) (waiting r location d s)
      (waiting r location d' s') := by
  have requests : (streamRequest r location d).Alike device (streamRequest r location d') := by
    refine ⟨?_, registered.device.secret⟩
    rw [streamRequest, registered.user.publicKey]
    rfl
  exact .created requests (fun answer _ _ _ h =>
    answered_matches refl registered answer (h.withMetrics fun m => m.observe ..)) h

theorem registering_matches (refl : ∀ key, user key key) (valid : r.validate = .ok location)
    (users : userKeys.Alike user userKeys') (devices : deviceKeys.Alike device deviceKeys')
    (h : s.Alike cipher user device s') :
    Matching cipher user device (ClaimResponse.Alike user)
      (registering r location userKeys deviceKeys s)
      (registering r location userKeys' deviceKeys' s') := by
  have outcome := register_alongside refl valid users devices _ _ h.store
  rw [registering, registering]
  generalize register r location userKeys deviceKeys s.store = result at outcome ⊢
  generalize register r location userKeys' deviceKeys' s'.store = result' at outcome ⊢
  cases outcome with
  | ok registered stores => exact waiting_matches refl registered (h.withStore stores)
  | error e stores => exact .finished (.error e) (h.withStore stores)

theorem claim_matches (refl : ∀ key, user key key) (r : ClaimRequest)
    (h : s.Alike cipher user device s') :
    Matching cipher user device (ClaimResponse.Alike user) (claim r s) (claim r s') := by
  rw [claim_eq, claim_eq]
  cases valid : r.validate with
  | error e => exact .finished (.error e) h
  | ok location =>
    have h := h.withLogIfVerbose (.claiming r)
    dsimp only
    generalize (if s.verbose then { s with log := s.log ++ [.claiming r] } else s) = t at h ⊢
    generalize (if s'.verbose then { s' with log := s'.log ++ [.claiming r] } else s') = t' at h ⊢
    have users := h.keys.users h.keys.next
    rw [h.keys.used]
    generalize made : t.keys.pair t.keys.used = pair at users ⊢
    generalize t'.keys.pair t.keys.used = pair' at users ⊢
    cases users with
    | error e =>
      have next := KeySource.forUser_of_error made
      exact .finished (.error _) (h.withKeys (h.keys.onward next))
    | ok users =>
      have other := KeySource.forUser_of_made h.keys.next made
      have next := KeySource.forUser_of_device other
      have devices := h.keys.devices other
      dsimp only
      generalize t.keys.pair (t.keys.used + 1) = pair at devices ⊢
      generalize t'.keys.pair (t.keys.used + 1) = pair' at devices ⊢
      have drawn := h.withKeys (h.keys.onward next)
      cases devices with
      | error e => exact .finished (.error _) drawn
      | ok devices => exact .paused (fun _ _ => registering_matches refl valid users devices) drawn

theorem deleteStreams_matches (token : String) (streams : List StreamRow)
    (h : s.Alike cipher user device s') :
    Matching cipher user device Eq (deleteStreams token streams s)
      (deleteStreams token streams s') := by
  induction streams generalizing s s' with
  | nil => exact .finished (.ok rfl) h
  | cons stream rest ih =>
    rw [deleteStreams, measured_bind, measured_bind]
    refine .deleted (fun answer time t t' h => ?_) h
    have counted := h.withMetrics fun m => m.observe .deleteStream (.of answer) time
    cases answer with
    | ok done => exact ih counted
    | error e => exact .finished (.error _) (counted.withLog _)

theorem removing_matches (refl : ∀ key, user key key) (r : RevokeRequest)
    (h : s.Alike cipher user device s') :
    Matching cipher user device Eq (removing r s) (removing r s') := by
  have outcome := removeDevice_alongside refl r.deviceToken r.userPublicKey _ _ h.store
  rw [removing, removing]
  generalize removeDevice r.deviceToken r.userPublicKey s.store = result at outcome ⊢
  generalize removeDevice r.deviceToken r.userPublicKey s'.store = result' at outcome ⊢
  cases outcome with
  | error e stores => exact .finished (.error e) (h.withStore stores)
  | ok same stores =>
    subst same
    dsimp only
    rw [map_eq, map_eq]
    refine (deleteStreams_matches _ _ (h.withStore stores)).bind fun a a' t t' values alike => ?_
    exact .finished (values.map fun _ _ _ => rfl) alike

theorem revoke_matches (refl : ∀ key, user key key) (r : RevokeRequest)
    (h : s.Alike cipher user device s') :
    Matching cipher user device Eq (revoke r s) (revoke r s') := by
  rw [revoke_eq, revoke_eq]
  cases r.validate with
  | error e => exact .finished (.error e) h
  | ok valid =>
    exact .paused (fun _ _ => removing_matches refl r) (h.withLogIfVerbose _)

end Registrar
end DeviceRegistry
