import DeviceRegistry.Proofs.Registrar.ClaimRun

/-! Calls that nothing stands in the way of succeed. -/
namespace DeviceRegistry

namespace Registrar

/-- A key pair that can be stored and asked for. -/
structure Usable (keys : KeyPair) : Prop where
  sealable : Sealable keys.privateKey
  named : keys.publicKey ≠ ""

/-- A registrar in good order: users' keys open, there is randomness, and no sequence has issued
more than `n` ids. -/
structure Fit (n : Nat) (c : Contents) (s : Registrar Store) : Prop where
  held : s.store.tables.Holds c
  settled : c.Settled
  opens : ∀ id row, c.users.get? id = some row → row.Opens s.store.cipher
  named : ∀ id row, c.users.get? id = some row → row.publicKey ≠ ""
  ready : s.store.entropy.Ready
  keys : ∀ n, ∃ keys, s.keys.pair n = .ok keys ∧ Usable keys
  issued : Within (fun _ => n) s.store.tables

variable {n : Nat} {c : Contents} {s : Registrar Store} {r : ClaimRequest} {location : Location}

theorem Fit.settledStore (h : Fit n c s) : s.store.Settled := ⟨c, h.held, h.settled⟩

theorem Fit.room (h : Fit n c s) (few : n + 1 < UInt64.size) (q : String) :
    Room (s.store.tables.issued q) :=
  Nat.lt_of_le_of_lt (Nat.add_le_add_right (h.issued q) 1) few

theorem Fit.spare (h : Fit n c s) (few : n + 1 < UInt64.size) (t : Tables) :
    Spare s.store.tables t :=
  fun q _ => h.room few q

theorem Fit.within (h : Fit n c s) {t : Store} (acts : Acts s.store t) :
    Within (fun _ => n + 1) t.tables := by
  intro q
  exact Nat.le_trans (h.issued.onward (acts.onward h.settledStore) q)
    (Nat.add_le_add_left (Tables.issues_le_one ..) n)

/-- A device is registered as a claim asks for. -/
structure Enrolls (r : ClaimRequest) (c : Contents) (user : UserRow) (device : DeviceRow)
    (c' : Contents) : Prop where
  enrolled : c.Enrolled user device c'
  uid : user.uid = r.userUid
  token : device.token = r.deviceToken

/-- Only a token that is taken stands in the way of a registration if users' keys open, there is
randomness, and the new keys are short enough to be sealed. -/
theorem RegisterObstacle.is_taken {store : Store} {userKeys deviceKeys : KeyPair}
    {e : RegistrationError} (h : RegisterObstacle c r userKeys deviceKeys store e)
    (opens : ∀ id row, c.users.get? id = some row → row.Opens store.cipher)
    (ready : store.entropy.Ready) (short : Sealable userKeys.privateKey)
    (short' : Sealable deviceKeys.privateKey) :
    e = .failed .insertDevice (.store (.duplicate "devices.token")) ∧
      ∃ id row, c.devices.get? id = some row ∧ row.token = r.deviceToken := by
  cases h with
  | locked there mine closed =>
    obtain ⟨key, opens⟩ := opens _ _ there
    rw [opens] at closed
    contradiction
  | taken there mine => exact ⟨rfl, _, _, there, mine⟩
  | @unsealed attempt column keys entropy e given later unsealed =>
    have short : Sealable keys.privateKey := by
      rcases given with rfl | rfl
      · exact short
      · exact short'
    obtain ⟨value, done⟩ := store.cipher.encryptText_ready column ready later short
    rw [done] at unsealed
    contradiction

/-- Nothing stands in the way of a device with a new token. -/
theorem no_obstacle {store : Store} (opens : ∀ id row, c.users.get? id = some row →
    row.Opens store.cipher) (ready : store.entropy.Ready) {userKeys deviceKeys : KeyPair}
    (short : Sealable userKeys.privateKey) (short' : Sealable deviceKeys.privateKey)
    (new : ∀ id row, c.devices.get? id = some row → row.token ≠ r.deviceToken)
    (e : RegistrationError) : ¬ RegisterObstacle c r userKeys deviceKeys store e := by
  intro obstacle
  obtain ⟨-, id, row, there, mine⟩ := obstacle.is_taken opens ready short short'
  exact new id row there mine

/-- Only a uid that is taken stands in the way of a stream for a device that is there. -/
theorem StreamObstacle.is_taken {id : UInt64} {device : DeviceRow} {uid : String}
    {e : RegistrationError} (h : StreamObstacle c id uid e)
    (there : c.devices.get? id = some device) (finite : device.IsFinite) :
    e = .failed .recordStream (.store (.duplicate "streams.uid")) ∧
      ∃ id row, c.streams.get? id = some row ∧ row.uid = uid := by
  cases h with
  | taken there mine => exact ⟨rfl, _, _, there, mine⟩
  | unknown unknown =>
    rw [unknown] at there
    contradiction
  | unreadable e known infinite =>
    rw [known] at there
    exact absurd (Option.some.inj there ▸ finite) infinite

/-- A device with a new token is registered. -/
theorem register_succeeds (fit : Fit n c s) (few : n + 1 < UInt64.size)
    (valid : r.validate = .ok location) {userKeys deviceKeys : KeyPair}
    (usable : Usable userKeys) (usable' : Usable deviceKeys)
    (new : ∀ id row, c.devices.get? id = some row → row.token ≠ r.deviceToken) :
    ∃ d user device c' store, register r location userKeys deviceKeys s.store = .ok d store ∧
      d.device.id = device.id ∧ d.user.keys.publicKey = user.publicKey ∧
      Enrolls r c user device c' ∧ Fit (n + 1) c' { s with store } := by
  have acts := Acts.registers valid userKeys deviceKeys s.store
  have outcome := @register_outcome s.store c r location userKeys deviceKeys fit.held (fit.spare few _)
  generalize register r location userKeys deviceKeys s.store = result at outcome acts ⊢
  cases outcome with
  | refused e entropy obstacle =>
    exact absurd obstacle (no_obstacle fit.opens fit.ready usable.sealable usable'.sealable new e)
  | @registered user device key c' tables entropy later uid owner opens described enrolled held' =>
    obtain ⟨-, finite⟩ := ClaimRequest.location_of_validate valid
    rw [← described.place] at finite
    refine ⟨_, user, device, c', _, rfl, rfl, rfl, ⟨enrolled, uid, described.token⟩, ?_⟩
    exact {
      held := held'
      settled := enrolled.settled fit.held.valid fit.settled finite
      opens := by
        intro id row there
        rcases enrolled.eq_or_old_user there with rfl | old
        · exact ⟨key, opens⟩
        · exact fit.opens id row old
      named := by
        intro id row there
        rcases enrolled.eq_or_old_user there with rfl | old
        · cases owner with
          | known known => exact fit.named _ _ known
          | new new next given => exact given ▸ usable.named
        · exact fit.named id row old
      ready := fit.ready.later later
      keys := fit.keys
      issued := fit.within acts }

theorem Fit.of_same (h : Fit n c s) {t : Registrar Store} (store : t.store = s.store)
    (keys : t.keys.pair = s.keys.pair) : Fit n c t := by
  refine ⟨?_, h.settled, ?_, h.named, ?_, ?_, ?_⟩
  · exact store ▸ h.held
  · exact store ▸ h.opens
  · exact store ▸ h.ready
  · exact keys ▸ h.keys
  · exact store ▸ h.issued

/-- A claim that can be worked on makes its keys and waits for its turn. -/
theorem claim_begins_ok (fit : Fit n c s) (valid : r.validate = .ok location) :
    ∃ userKeys deviceKeys t, Usable userKeys ∧ Usable deviceKeys ∧ Fit n c t ∧
      claim r s = .paused t (registering r location userKeys deviceKeys) := by
  have same : Fit n c (if s.verbose then { s with log := s.log ++ [.claiming r] } else s) := by
    split
    · exact fit.of_same rfl rfl
    · exact fit
  rw [claim_eq, valid]
  dsimp only
  generalize (if s.verbose then { s with log := s.log ++ [.claiming r] } else s) = s' at same ⊢
  obtain ⟨userKeys, made, usable⟩ := same.keys s'.keys.used
  obtain ⟨deviceKeys, made', usable'⟩ := same.keys (s'.keys.used + 1)
  rw [made]
  dsimp only
  rw [made']
  exact ⟨userKeys, deviceKeys, { s' with keys.used := s'.keys.used + 2 }, usable, usable',
    same.of_same rfl rfl, rfl⟩

/-- A claim of a new token comes to wait for the encoder. -/
theorem claim_registers (fit : Fit n c s) (few : n + 1 < UInt64.size)
    (valid : r.validate = .ok location)
    (new : ∀ id row, c.devices.get? id = some row → row.token ≠ r.deviceToken) :
    ∃ userKeys deviceKeys a a' d user device c',
      (claim r s).Reaches Progress.Alone [(a, a')] (waiting r location d a') ∧
      register r location userKeys deviceKeys a.store = .ok d a'.store ∧
      d.device.id = device.id ∧ d.user.keys.publicKey = user.publicKey ∧
      Enrolls r c user device c' ∧ Fit (n + 1) c' a' := by
  obtain ⟨userKeys, deviceKeys, a, usable, usable', fit, begun⟩ := claim_begins_ok fit valid
  obtain ⟨d, user, device, c', store, registered, rest⟩ :=
    register_succeeds fit few valid usable usable' new
  refine ⟨userKeys, deviceKeys, a, { a with store }, d, user, device, c', ?_, registered, rest⟩
  have made : registering r location userKeys deviceKeys a = waiting r location d { a with store } := by
    rw [registering, registered]
  have resumed := Progress.Alone.resumed a (registering r location userKeys deviceKeys)
  rw [begun]
  rw [made] at resumed
  exact resumed

/-- The stream of a new uid is recorded for a device that is there. -/
theorem recordStream_succeeds (fit : Fit n c s) (few : n + 1 < UInt64.size) {id : UInt64}
    {device : DeviceRow} (there : c.devices.get? id = some device) {uid : String}
    (new : ∀ id row, c.streams.get? id = some row → row.uid ≠ uid) :
    ∃ stream c' store, recordStream id uid s.store = .ok () store ∧ stream.uid = uid ∧
      c.Attached id stream c' ∧ Fit (n + 1) c' { s with store } := by
  have acts := Acts.records id uid s.store
  have outcome := recordStream_outcome fit.held id uid (fit.spare few _)
  generalize recordStream id uid s.store = result at outcome acts ⊢
  cases outcome with
  | refused e obstacle =>
    obtain ⟨-, id, row, taken, mine⟩ := obstacle.is_taken there (fit.settled.finite _ _ there)
    exact absurd mine (new id row taken)
  | @recorded stream c' tables mine attached held' =>
    refine ⟨stream, c', _, rfl, mine, attached, ?_⟩
    exact {
      held := held'
      settled := attached.settled fit.settled
      opens := by
        rw [attached.made]
        exact fit.opens
      named := by
        rw [attached.made]
        exact fit.named
      ready := fit.ready
      keys := fit.keys
      issued := fit.within acts }

/-- A claim of a new token succeeds if the encoder creates a new stream. -/
theorem claim_succeeds (fit : Fit n c s) (few : n + 2 < UInt64.size)
    (valid : r.validate = .ok location)
    (new : ∀ id row, c.devices.get? id = some row → row.token ≠ r.deviceToken) {uid : String}
    (newStream : ∀ id row, c.streams.get? id = some row → row.uid ≠ uid) (time : Duration) :
    ∃ a a' b b' u t response user device stream c₁ c₂,
      (claim r s).Reaches Progress.Alone [(a, a'), (b, b'), (u, t)] (.finished (.ok response) t) ∧
      Enrolls r c user device c₁ ∧ c₁.Attached device.id stream c₂ ∧ stream.uid = uid ∧
      response.userPublicKey = user.publicKey ∧ Fit (n + 2) c₂ t := by
  obtain ⟨userKeys, deviceKeys, a, a', d, user, device, c₁, begun, registered, id, key, enrolls,
    fit₁⟩ := claim_registers fit (by omega) valid new
  let answer : Except EncoderError String := .ok uid
  let b : Registrar Store :=
    { a' with metrics := a'.metrics.observe .createStream (.of answer) time }
  have fit' : Fit (n + 1) c₁ b := fit₁.of_same rfl rfl
  obtain ⟨stream, c₂, store, recorded, mine', attached, fit₂⟩ :=
    recordStream_succeeds fit' few enrolls.enrolled.device_get?
      (enrolls.enrolled.streams ▸ newStream)
  rw [← id] at recorded
  have done : recording r d uid b = .finished (.ok (response d)) { b with store } := by
    rw [recording, recorded]
  have resumed := Progress.Alone.resumed b (recording r d uid)
  rw [done] at resumed
  have answered : (waiting r location d a').Reaches Progress.Alone [(a', b)]
      (.paused b (recording r d uid)) :=
    @Progress.Alone.answered _ _ (.createStream (streamRequest r location d)) a' _ answer time
  exact ⟨a, a', a', b, b, { b with store }, response d, user, device, stream, c₁, c₂,
    begun.trans (answered.trans resumed), enrolls, attached, mine', key, fit₂⟩

/-- Streams that the encoder deletes without fail. -/
theorem deleteStreams_succeeds (token : String) (streams : List StreamRow) (s : Registrar Store)
    (time : Duration) : ∃ turns t, turns.length = streams.length ∧ t.store = s.store ∧
      t.keys = s.keys ∧ (deleteStreams token streams s : Progress _ (Outcome Unit)).Reaches
        Progress.Alone turns (.finished (.ok ()) t) := by
  induction streams generalizing s with
  | nil => exact ⟨[], s, rfl, rfl, rfl, .here _⟩
  | cons stream rest ih =>
    let answer : Except EncoderError Unit := .ok ()
    obtain ⟨turns, t, length, store, keys, run⟩ :=
      ih { s with metrics := s.metrics.observe .deleteStream (.of answer) time }
    rw [deleteStreams, measured_bind]
    have first := fun resume =>
      @Progress.Alone.answered _ (Outcome Unit) (.deleteStream stream.uid) s resume answer time
    exact ⟨_, t, by rw [List.length_append, length, Nat.add_comm]; rfl, store, keys,
      (first _).trans run⟩

/-- A revoke with the token and the owner's key succeeds if the encoder deletes the streams. -/
theorem revoke_succeeds (fit : Fit n c s) {r : RevokeRequest} (valid : r.validate = .ok ())
    {id : UInt64} {device : DeviceRow} {owner : UserRow}
    (granted : c.Grants r.deviceToken r.userPublicKey id device owner) (time : Duration) :
    ∃ streams turns t c', c.StreamsOf id streams ∧ turns.length = streams.length + 1 ∧
      (revoke r s).Reaches Progress.Alone turns (.finished (.ok {}) t) ∧
      c.Removed id device.userId c' ∧ Fit n c' t := by
  have same : Fit n c (if s.verbose then { s with log := s.log ++ [.revoking r] } else s) := by
    split
    · exact fit.of_same rfl rfl
    · exact fit
  rw [revoke_eq, valid]
  dsimp only
  generalize (if s.verbose then { s with log := s.log ++ [.revoking r] } else s) = s at same ⊢
  have outcome := removeDevice_outcome same.held r.deviceToken r.userPublicKey
  generalize removed : removeDevice r.deviceToken r.userPublicKey s.store = result at outcome
  cases outcome with
  | refused e none => exact absurd granted (none _ _ _)
  | @removed id' device' owner' streams c' tables granted' all gone held' sequences =>
    obtain rfl := granted'.unique same.held granted
    obtain rfl : device' = device := Option.some.inj (granted'.there.symm.trans granted.there)
    obtain ⟨turns, t, length, store, keys, run⟩ := deleteStreams_succeeds r.deviceToken streams
      { s with store := { s.store with tables } } time
    have deleting : removing r s = ((deleteStreams r.deviceToken streams
        { s with store := { s.store with tables } }).map (Except.map fun _ => {})) := by
      rw [removing, removed]
      exact map_eq ..
    have resumed := Progress.Alone.resumed s (removing r)
    rw [deleting] at resumed
    have fit' : Fit n c' { s with store := { s.store with tables } } := {
      held := held'
      settled := gone.settled granted.there same.settled
      opens := fun id row there => same.opens id row (gone.old_user there)
      named := fun id row there => same.named id row (gone.old_user there)
      ready := same.ready
      keys := same.keys
      issued := fun q => (Tables.issued_congr sequences q).symm ▸ same.issued q }
    refine ⟨streams, _, t, c', all, ?_, resumed.trans (run.map _), gone,
      fit'.of_same store (congrArg KeySource.pair keys)⟩
    rw [List.length_append, length, Nat.add_comm]
    rfl

/-- A claim fails if the encoder creates no stream, whatever others did before it answered. -/
theorem waiting_fails {others : Registrar Store → List Turn → Registrar Store → Prop}
    (idle : ∀ u, others u [] u) {d : Registered} {between : List Turn} {b : Registrar Store}
    (meanwhile : others s between b) (e : EncoderError) (time : Duration) :
    ∃ b' t, b'.store = b.store ∧
      t.store = stateAfter (removeDevice r.deviceToken d.user.keys.publicKey b.store) ∧
      (waiting r location d s).Reaches others (between ++ [(b, b'), (b', t)])
        (.finished (.error (.failed .createStream (.encoder e))) t) := by
  let answer : Except EncoderError String := .error e
  let b' : Registrar Store :=
    { b with metrics := b.metrics.observe .createStream (.of answer) time }
  obtain ⟨t, gone, -, undone⟩ := undoing_finishes r.deviceToken d.user.keys.publicKey
    (.failed .createStream (.encoder e)) b'
  refine ⟨b', t, rfl, gone, ?_⟩
  have last : (Progress.paused b' (undoing r.deviceToken d.user.keys.publicKey
      (.failed .createStream (.encoder e)))).Reaches others
      ([] ++ [(b', (undoing r.deviceToken d.user.keys.publicKey
        (.failed .createStream (.encoder e)) b' : Progress _ (Outcome ClaimResponse)).state)]) _ :=
    .resumed (idle b') (.here _)
  rw [undone] at last
  exact @Progress.Reaches.answered _ _ _ (.createStream (streamRequest r location d)) _ _ _ answer time
    _ _ _ meanwhile last

theorem exists_fresh (keys : KeySource)
    (usable : ∀ n, ∃ pair, keys.pair n = .ok pair ∧ Usable pair) :
    ∃ start : Registrar Store, start.store.Fresh ∧ start.keys = keys ∧ Fit 0 {} start := by
  obtain ⟨store, fresh, ready⟩ := Store.exists_fresh
  exact ⟨⟨store, keys, {}, false, []⟩, fresh, rfl, {
    held := fresh.holds
    settled := Contents.settled_empty
    opens := nofun
    named := nofun
    ready := ready
    keys := usable
    issued := fresh.within }⟩

/-- Key pairs with numbered public keys. -/
def numberedKeys : KeySource := ⟨fun n => .ok ⟨"private", "public " ++ toString n⟩, 0⟩

theorem numberedKeys_usable (n : Nat) : ∃ pair, numberedKeys.pair n = .ok pair ∧ Usable pair := by
  have short : Sealable "private" := by decide
  have named : "public " ++ toString n ≠ "" := by simp
  exact ⟨_, rfl, short, named⟩

/-- 12.5 degrees east and 32.25 degrees north. -/
def aliceStands : Location := ⟨⟨0x4029000000000000⟩, ⟨0x4040200000000000⟩⟩

def aliceClaims (token : String) : ClaimRequest where
  deviceToken := token
  userUid := "alice"
  location := some aliceStands
  broker := "broker"

/-- After the first claim there is no stream but its own. -/
theorem Enrolls.only_stream {r : ClaimRequest} {user : UserRow} {device : DeviceRow}
    {stream row : StreamRow} {c : Contents} {id : UInt64} (h : Enrolls r {} user device c)
    (there : (c.withStream stream).streams.get? id = some row) : row = stream := by
  rw [Contents.withStream, h.enrolled.streams] at there
  by_cases same : id = stream.id
  · rw [same, Table.get?_insert_self] at there
    exact (Option.some.inj there).symm
  · rw [Table.get?_insert_ne _ _ same] at there
    cases there

theorem aliceClaims_valid {token : String} (named : token ≠ "") :
    (aliceClaims token).validate = .ok aliceStands := by
  have given : requireText "device_token" (aliceClaims token).deviceToken = .ok () := if_neg named
  have valid : (aliceClaims "spare").validate = .ok aliceStands := by decide +kernel
  rw [ClaimRequest.validate, given]
  exact valid

/-- Alice claims her first device. She may claim any other one then, and no stream but its own is
taken. -/
theorem alice_claims_first {start : Registrar Store} (fit : Fit 0 {} start) {token : String}
    (named : token ≠ "") : ∃ a a' b b' u t response user device stream c,
      (claim (aliceClaims token) start).Reaches Progress.Alone [(a, a'), (b, b'), (u, t)]
        (.finished (.ok response) t) ∧
      Enrolls (aliceClaims token) {} user device c ∧
      (∀ other, token ≠ other → ∀ id row, c.devices.get? id = some row → row.token ≠ other) ∧
      (∀ id row, (c.withStream stream).streams.get? id = some row → row.uid = "first stream") ∧
      Fit 2 (c.withStream stream) t := by
  obtain ⟨a, a', b, b', u, t, response, user, device, stream, c, _, done, enrolls, attached, mine, -,
    fit⟩ := @claim_succeeds _ _ _ _ _ fit (by decide) (aliceClaims_valid named) nofun "first stream"
      nofun {}
  obtain rfl := attached.made
  refine ⟨a, a', b, b', u, t, response, user, device, stream, c, done, enrolls,
    fun other different => enrolls.enrolled.new_token (by rwa [enrolls.token]) nofun,
    fun id row there => ?_, fit⟩
  rw [enrolls.only_stream there, mine]

/-- Alice has a spare device. She has claimed a thermometer as well, and waits for the encoder. -/
structure AliceWaits (start s a a' : Registrar Store) (history : List Turn) (d : Registered)
    (user : UserRow) (spare device : DeviceRow) (c c' : Contents) : Prop where
  fresh : start.store.Fresh
  calls : Calls start history s
  length : history.length = 4
  run : (claim (aliceClaims "thermometer") s).Reaches Progress.Alone [(a, a')]
    (waiting (aliceClaims "thermometer") aliceStands d a')
  id : d.device.id = device.id
  key : d.user.keys.publicKey = user.publicKey
  held : s.store.tables.Holds c
  enrolls : Enrolls (aliceClaims "thermometer") c user device c'
  fit : Fit 3 c' a'
  there : c'.devices.get? spare.id = some spare
  other : spare.id ≠ device.id
  owner : spare.userId = user.id
  streams : ∀ id row, c'.streams.get? id = some row → row.uid = "first stream"

theorem alice_waits : ∃ start s a a' history d user spare device c c',
    AliceWaits start s a a' history d user spare device c c' := by
  obtain ⟨start, fresh, -, fit⟩ := exists_fresh numberedKeys numberedKeys_usable
  obtain ⟨a, a', b, b', u, s, response, user, spare, stream, c₁, first, enrolls, new, streams, fit⟩ :=
    @alice_claims_first _ fit "spare" (by decide)
  have calls : Calls start _ s := .one (.claim (aliceClaims "spare")) first
  obtain ⟨userKeys, deviceKeys, v, v', d, user', device, c₃, waits, -, id, key, enrolls', fit'⟩ :=
    claim_registers fit (by decide) (@aliceClaims_valid "thermometer" (by decide))
      (new _ (by decide))
  have there := enrolls.enrolled.device_get?
  have other : spare.id ≠ device.id := by
    intro same
    have fresh := Contents.valid_fresh fit.held.valid enrolls'.enrolled.room enrolls'.enrolled.next
    rw [← same] at fresh
    exact Option.some_ne_none _ (there.symm.trans fresh)
  have kept : c₃.users.get? user.id = some user :=
    enrolls'.enrolled.keeps_user fit.held.valid enrolls.enrolled.user_get?
  have sameUser : user.id = user'.id := fit'.held.users.id_eq kept enrolls'.enrolled.user_get?
    (enrolls.uid.trans enrolls'.uid.symm)
  exact ⟨start, s, v, v', _, d, user', spare, device, c₁.withStream stream, c₃, {
    fresh
    calls
    length := rfl
    run := waits
    id
    key
    held := fit.held
    enrolls := enrolls'
    fit := fit'
    there := (enrolls'.enrolled.devices_get? other).trans there
    other
    owner := enrolls.enrolled.owner.trans sameUser
    streams := by
      intro id row found
      rw [enrolls'.enrolled.streams] at found
      exact streams id row found }⟩

end Registrar
end DeviceRegistry
