import DeviceRegistry.Proofs.Encoder.Attendance
import DeviceRegistry.Proofs.Registrar.Interleaving
import DeviceRegistry.Proofs.Store.Removal

/-! What a claim needs to succeed, and what it leaves behind when it does: the rows that it adds, the
stream that it has the encoder create, and its answer. -/
namespace DeviceRegistry
open StoredRow

/-- A stored row has the value in its unique column. -/
def InUse (ρ : Type) [StoredRow ρ] [Keyed ρ] (rows : Table UInt64 Bytes) (key : String) : Prop :=
  ∃ id, ∃ row : ρ, Stores rows id row ∧ Keyed.key row = key

/-- A row that can be added: it has the next id, no row has that id, and none has its value in the
unique column. -/
structure Addable {ρ : Type} [StoredRow ρ] [Keyed ρ] (rows : Table UInt64 Bytes) (last : UInt64)
    (row : ρ) : Prop where
  next : Keyed.id row = last + 1
  free : rows.get? (Keyed.id row) = none
  new : ¬ InUse ρ rows (Keyed.key row)

namespace Shelf

variable {ρ : Type} [StoredRow ρ] [Keyed ρ] [TellsKey ρ] {rows : Table UInt64 Bytes}
  {index : Table String UInt64} {c : Table UInt64 ρ} {key : String}

theorem not_inUse (h : Shelf rows index c) :
    ¬ InUse ρ rows key ↔ ∀ id row, c.get? id = some row → Keyed.key row ≠ key := by
  constructor
  · intro unused id row there mine
    exact unused ⟨id, row, h.get?_row there, mine⟩
  · rintro new ⟨id, row, stored, rfl⟩
    obtain ⟨row', there, same⟩ := h.of_stores stored
    exact new id row' there (TellsKey.key_eq same)

theorem addable (h : Shelf rows index c) {last : UInt64} (issued : IssuedBy last c) {row : ρ}
    (next : Keyed.id row = last + 1)
    (new : ∀ id other, c.get? id = some other → Keyed.key other ≠ Keyed.key row) :
    Addable rows last row where
  next := next
  free := h.get?_none (next ▸ issued.next_new)
  new := h.not_inUse.2 new

end Shelf

namespace Registrar

variable {E : Type} {enc : Encoder E} {e : E} {r : ClaimRequest} {s : Registrar Store}
  {location : Location} {userKeys deviceKeys : KeyPair}

/-- How a claim ends that is attended to. -/
inductive ClaimEnds (enc : Encoder E) (e : E) (r : ClaimRequest) (s : Registrar Store) :
    Attended (Registrar Store) E (Outcome ClaimResponse) → Prop where
  | refused {error : RegistrationError} {t : Registrar Store} (same : t.store = s.store)
      (none : ∀ location userKeys deviceKeys, ¬ Begins r s location userKeys deviceKeys)
      (early : r.validate = .error error ∧ t = s ∨
        ∃ attempt failure, error = .failed attempt (.keys failure))
      (clear : Clear s t) :
      ClaimEnds enc e r s ⟨.error error, t, e, [], []⟩
  | unregistered {location : Location} {userKeys deviceKeys : KeyPair} {error : RegistrationError}
      {start t : Registrar Store} (begins : Begins r s location userKeys deviceKeys)
      (same : start.store = s.store)
      (unregistered : register r location userKeys deviceKeys start.store = .error error t.store)
      (clear : Clear s t) :
      ClaimEnds enc e r s ⟨.error error, t, e, [(start, t)], []⟩
  /-- The encoder created no stream, and the claim was undone. -/
  | uncreated {location : Location} {userKeys deviceKeys : KeyPair} {d : Registered}
      {failure : EncoderError} {time : Duration} {e' : E} {start a b t : Registrar Store}
      (begins : Begins r s location userKeys deviceKeys) (same : start.store = s.store)
      (registered : register r location userKeys deviceKeys start.store = .ok d a.store)
      (asked : enc.answer (.createStream (streamRequest r location d)) e =
        ((.error failure, time), e'))
      (heard : b.store = a.store)
      (clear : ∀ removed u,
        removeDevice r.deviceToken d.user.keys.publicKey b.store = .ok removed u → Clear s t) :
      ClaimEnds enc e r s ⟨.error (.failed .createStream (.encoder failure)), t, e',
        [(start, a), (a, b), (b, t)], [⟨.createStream (streamRequest r location d), .error failure⟩]⟩
  /-- The stream was not recorded, and the claim was undone. -/
  | unrecorded {location : Location} {userKeys deviceKeys : KeyPair} {d : Registered} {uid : String}
      {error : RegistrationError} {time : Duration} {e' : E} {start a b c t : Registrar Store}
      (begins : Begins r s location userKeys deviceKeys) (same : start.store = s.store)
      (registered : register r location userKeys deviceKeys start.store = .ok d a.store)
      (asked : enc.answer (.createStream (streamRequest r location d)) e = ((.ok uid, time), e'))
      (heard : b.store = a.store)
      (unrecorded : recordStream d.device.id uid b.store = .error error c.store)
      (clear : ∀ removed u,
        removeDevice r.deviceToken d.user.keys.publicKey c.store = .ok removed u → Clear s t) :
      ClaimEnds enc e r s ⟨.error error, t, e', [(start, a), (a, b), (b, c), (c, t)],
        [⟨.createStream (streamRequest r location d), .ok uid⟩]⟩
  | claimed {location : Location} {userKeys deviceKeys : KeyPair} {d : Registered} {uid : String}
      {time : Duration} {e' : E} {start a b t : Registrar Store}
      (begins : Begins r s location userKeys deviceKeys) (same : start.store = s.store)
      (registered : register r location userKeys deviceKeys start.store = .ok d a.store)
      (asked : enc.answer (.createStream (streamRequest r location d)) e = ((.ok uid, time), e'))
      (heard : b.store = a.store)
      (recorded : recordStream d.device.id uid b.store = .ok () t.store) (clear : Clear s t) :
      ClaimEnds enc e r s ⟨.ok (response d), t, e', [(start, a), (a, b), (b, t)],
        [⟨.createStream (streamRequest r location d), .ok uid⟩]⟩

theorem claim_attend (enc : Encoder E) (e : E) (r : ClaimRequest) (s : Registrar Store) :
    ClaimEnds enc e r s ((claim r s).attend enc e) := by
  rcases claim_begins r s with ⟨error, t, same, clear, early, none, begun⟩ |
    ⟨location, userKeys, deviceKeys, start, same, clear, begins, begun⟩
  · rw [begun]
    exact .refused same none early clear
  rw [begun, Progress.attend_paused, registering]
  cases registered : register r location userKeys deviceKeys start.store with
  | error error store => exact .unregistered begins same registered (clear.trans (.of_same rfl))
  | ok d store =>
    rcases asked : enc.answer (.createStream (streamRequest r location d)) e with
      ⟨⟨answer, time⟩, e'⟩
    dsimp only
    rw [waiting, Progress.attend_calling enc asked]
    replace clear : Clear s { start with store } := clear.trans (.of_same rfl)
    generalize same' : ({ start with store } : Registrar Store) = a at clear
    obtain rfl : a.store = store := same' ▸ rfl
    cases answer with
    | error failure =>
      rw [answered, Progress.attend_paused]
      let answer : Except EncoderError String := .error failure
      obtain ⟨t, -, undone, finished⟩ := undoing_finishes r.deviceToken d.user.keys.publicKey
        (.failed .createStream (.encoder failure))
        { a with metrics := a.metrics.observe .createStream (.of answer) time }
      rw [finished]
      exact .uncreated begins same registered asked rfl fun removed u done =>
        (clear.trans (.of_same rfl)).trans (undone removed u done)
    | ok uid =>
      rw [answered, Progress.attend_paused, recording]
      generalize heard : ({ a with metrics := _ } : Registrar Store) = b
      replace clear : Clear s b := clear.trans (.of_same (heard ▸ rfl))
      obtain heard : b.store = a.store := heard ▸ rfl
      cases recorded : recordStream d.device.id uid b.store with
      | ok done store =>
        exact .claimed begins same registered asked heard recorded (clear.trans (.of_same rfl))
      | error error store =>
        dsimp only
        rw [Progress.attend_paused]
        replace clear := clear.trans (.note (t :=
          { b with store, log := b.log ++ [.streamOrphaned uid r.deviceToken error] }) rfl (by simp))
        obtain ⟨t, -, undone, finished⟩ := undoing_finishes r.deviceToken d.user.keys.publicKey error
          { b with store, log := b.log ++ [.streamOrphaned uid r.deviceToken error] }
        rw [finished]
        exact .unrecorded begins same registered asked heard recorded fun removed u done =>
          clear.trans (undone removed u done)

/-- The stream that a claim asks for, with the private key of the device and the public key of its
owner. -/
def requested (r : ClaimRequest) (location : Location) (deviceKeys : KeyPair) (publicKey : String) :
    StreamRequest where
  broker := r.broker
  topic := deviceTopic r.deviceToken
  devicePrivateKey := deviceKeys.privateKey
  recipientPublicKey := publicKey
  userUid := r.userUid
  location := location
  disposition := r.disposition

/-- The public key of the user with the uid, or the new one if there is no such user. -/
inductive OwnerKey (users : Table UInt64 Bytes) (uid : String) (keys : KeyPair) : String → Prop where
  | known {id : UInt64} {row : UserRow} (there : Stores users id row) (mine : row.uid = uid) :
      OwnerKey users uid keys row.publicKey
  | new (unknown : ¬ InUse UserRow users uid) : OwnerKey users uid keys keys.publicKey

/-- A claim has all that it needs to succeed: a valid request with a new token, two key pairs, and
an encoder that answers with a new uid when it is asked for the stream. -/
structure Claimable (enc : Encoder E) (e : E) (r : ClaimRequest) (s : Registrar Store)
    (location : Location) (userKeys deviceKeys : KeyPair) (publicKey uid : String) : Prop where
  begins : Begins r s location userKeys deviceKeys
  token : ¬ InUse DeviceRow s.store.tables.devices r.deviceToken
  owner : OwnerKey s.store.tables.users r.userUid userKeys publicKey
  created : (enc.answer (.createStream (requested r location deviceKeys publicKey)) e).1.1 = .ok uid
  uid : ¬ InUse StreamRow s.store.tables.streams uid

/-- The row of the owner with the private key, and the tables with it. Only an owner that is added
has the new keys. -/
inductive OwnerRow (t : Tables) (keys : KeyPair) (user : UserRow) : String → Tables → Prop where
  | known {key : String} (there : Stores t.users user.id user) : OwnerRow t keys user key t
  | added (addable : Addable t.users (t.issued "users") user)
      (given : user.publicKey = keys.publicKey) :
      OwnerRow t keys user keys.privateKey (t.withUser user)

/-- What a claim that succeeds makes of the tables `t`, and its response: a device of the owner and a
stream of the device are added, and nothing else but perhaps the owner. -/
structure Claimed (r : ClaimRequest) (location : Location) (userKeys deviceKeys : KeyPair)
    (uid : String) (cipher : ColumnCipher) (t : Tables) (user : UserRow) (device : DeviceRow)
    (stream : StreamRow) (response : ClaimResponse) (t' : Tables) : Prop where
  place : r.location = some location
  ownerUid : user.uid = r.userUid
  opens : cipher.decryptText Transaction.userKeyColumn user.privateKey = .ok response.userPrivateKey
  newDevice : Addable t.devices (t.issued "devices") device
  described : Describes r location deviceKeys cipher device
  owned : device.userId = user.id
  newStream : Addable t.streams (t.issued "streams") stream
  streamUid : stream.uid = uid
  belongs : stream.deviceId = device.id
  rows : ∃ tables, OwnerRow t userKeys user response.userPrivateKey tables ∧
    t' = (tables.withDevice device).withStream stream
  userPublicKey : response.userPublicKey = user.publicKey
  devicePublicKey : response.devicePublicKey = deviceKeys.publicKey

variable {c : Contents} {a b t : Store} {d : Registered} {uid publicKey : String}

theorem Begins.unique {location' : Location} {userKeys' deviceKeys' : KeyPair}
    (h : Begins r s location userKeys deviceKeys) (h' : Begins r s location' userKeys' deviceKeys') :
    location' = location ∧ userKeys' = userKeys ∧ deviceKeys' = deviceKeys :=
  ⟨Except.ok.inj (h'.valid.symm.trans h.valid), Except.ok.inj (h'.userKeys.symm.trans h.userKeys),
    Except.ok.inj (h'.deviceKeys.symm.trans h.deviceKeys)⟩

theorem OwnerKey.unique {t : Tables} {uid publicKey' : String} (held : t.Holds c)
    (h : OwnerKey t.users uid userKeys publicKey) (h' : OwnerKey t.users uid userKeys publicKey') :
    publicKey' = publicKey := by
  cases h with
  | @known id row there mine =>
    cases h' with
    | @known id' row' there' mine' =>
      have found := held.stores_user.1 there
      have found' := held.stores_user.1 there'
      obtain rfl := held.users.id_eq found found' (mine.trans mine'.symm)
      rw [Option.some.inj (found.symm.trans found')]
    | new unknown => exact absurd ⟨id, row, there, mine⟩ unknown
  | new unknown =>
    cases h' with
    | @known id row there mine => exact absurd ⟨id, row, there, mine⟩ unknown
    | new => rfl

/-- A device that was registered has a new token. Its owner's public key goes to the encoder. -/
theorem register_requests (held : a.tables.Holds c)
    (registered : register r location userKeys deviceKeys a = .ok d b)
    (spare : Spare a.tables b.tables) :
    ¬ InUse DeviceRow a.tables.devices r.deviceToken ∧
      OwnerKey a.tables.users r.userUid userKeys d.user.keys.publicKey ∧
      streamRequest r location d = requested r location deviceKeys d.user.keys.publicKey := by
  have outcome := Registers.of_eq held registered spare
  cases outcome with
  | @registered user device key c' tables entropy later mine owner opens described enrolled held' =>
    refine ⟨held.devices.not_inUse.2 ?_, ?_, rfl⟩
    · intro id row there
      exact described.token ▸ enrolled.new id row there
    · cases owner with
      | known known => exact .known (held.users.get?_row known) mine
      | new new next given =>
        rw [given]
        rw [mine] at new
        exact .new (held.users.not_inUse.2 fun _ _ there => held.users.new_of_index new there)

/-- Right after its registration a device can be given a stream, unless the uid is in use. -/
theorem recordStream_register (held : a.tables.Holds c) (valid : r.validate = .ok location)
    (registered : register r location userKeys deviceKeys a = .ok d b)
    (spare : Spare a.tables b.tables) {error : RegistrationError}
    (unrecorded : recordStream d.device.id uid b = .error error t)
    (spare' : Spare b.tables t.tables) :
    error = .failed .recordStream (.store (.duplicate "streams.uid")) ∧
      InUse StreamRow a.tables.streams uid := by
  have outcome := Registers.of_eq held registered spare
  cases outcome with
  | @registered user device key c' tables entropy later mine owner opens described enrolled held' =>
    have outcome := Recorded.of_eq held' unrecorded spare'
    cases outcome with
    | refused _ obstacle =>
      obtain ⟨-, finite⟩ := ClaimRequest.location_of_validate valid
      rw [← described.place] at finite
      obtain ⟨duplicate, id, row, there, mine⟩ := obstacle.is_taken enrolled.device_get? finite
      rw [enrolled.streams] at there
      exact ⟨duplicate, id, row, held.streams.get?_row there, mine⟩

theorem claimed_of_recorded (held : a.tables.Holds c) (valid : r.validate = .ok location)
    (registered : register r location userKeys deviceKeys a = .ok d b)
    (spare : Spare a.tables b.tables) (recorded : recordStream d.device.id uid b = .ok () t)
    (spare' : Spare b.tables t.tables) :
    ¬ InUse StreamRow a.tables.streams uid ∧ ∃ user device stream,
      user.publicKey = d.user.keys.publicKey ∧ Claimed r location userKeys deviceKeys uid a.cipher
        a.tables user device stream (response d) t.tables := by
  have outcome := Registers.of_eq held registered spare
  cases outcome with
  | @registered user device key c' tables entropy later mine owner opens described enrolled held' =>
    have outcome := Recorded.of_eq held' recorded spare'
    cases outcome with
    | @recorded stream c'' tables' named attached held'' made =>
      have unused := enrolled.streams ▸ attached.new
      have last : c'.lastStream = c.lastStream := by
        obtain ⟨c₁, joined, rfl⟩ := enrolled.joined
        exact joined.lastStream
      refine ⟨held.streams.not_inUse.2 (named ▸ unused), user, device, stream, rfl, ?_⟩
      exact {
        place := (ClaimRequest.location_of_validate valid).1
        ownerUid := mine
        opens
        newDevice := held.lastDevice ▸
          held.devices.addable held.valid.devices enrolled.next enrolled.new
        described
        owned := enrolled.owner
        newStream := held.lastStream ▸
          held.streams.addable held.valid.streams (attached.next.trans (last ▸ rfl)) unused
        streamUid := named
        belongs := attached.mine
        rows := by
          refine ⟨tables, ?_, made⟩
          cases owner with
          | known known => exact .known (held.users.get?_row known)
          | new new next given =>
            refine .added (held.lastUser ▸ held.users.addable held.valid.users next ?_) given
            exact fun _ _ there => held.users.new_of_index new there
        userPublicKey := rfl
        devicePublicKey := rfl }

namespace ClaimEnds

variable {done : Attended (Registrar Store) E (Outcome ClaimResponse)}

/-- A claim that succeeds could be made, and has added what it has to add. -/
theorem effect (h : ClaimEnds enc e r s done) (held : s.store.tables.Holds c)
    (spare : ∀ turn ∈ done.turns, Spare turn.1.store.tables turn.2.store.tables)
    {response : ClaimResponse} (succeeded : done.value = .ok response) :
    ∃ location userKeys deviceKeys uid user device stream,
      Claimable enc e r s location userKeys deviceKeys user.publicKey uid ∧
      Claimed r location userKeys deviceKeys uid s.store.cipher s.store.tables user device stream
        response done.state.store.tables ∧
      done.exchanges =
        [⟨.createStream (requested r location deviceKeys user.publicKey), .ok uid⟩] := by
  cases h with
  | @claimed location userKeys deviceKeys d uid time e' start a b t begins same registered asked heard
      recorded =>
    obtain rfl := Except.ok.inj succeeded
    have first := spare (start, a) (by simp)
    have last := spare (b, t) (by simp)
    rw [heard] at recorded last
    rw [same] at registered first
    obtain ⟨token, owner, request⟩ := register_requests held registered first
    obtain ⟨unused, user, device, stream, publicKey, claimed⟩ :=
      claimed_of_recorded held begins.valid registered first recorded last
    rw [request] at asked ⊢
    rw [← publicKey] at owner asked ⊢
    exact ⟨location, userKeys, deviceKeys, uid, user, device, stream,
      ⟨begins, token, owner, by rw [asked], unused⟩, claimed, rfl⟩
  | refused => cases succeeded
  | unregistered => cases succeeded
  | uncreated => cases succeeded
  | unrecorded => cases succeeded

/-- A claim that can be made succeeds: whatever else could have come of it is ruled out. -/
theorem succeeds (h : ClaimEnds enc e r s done) (held : s.store.tables.Holds c)
    (opens : ∀ id row, c.users.get? id = some row → row.Opens s.store.cipher)
    (spare : ∀ turn ∈ done.turns, Spare turn.1.store.tables turn.2.store.tables)
    (ready : s.store.entropy.Ready)
    (short : ∀ n keys, s.keys.pair n = .ok keys → Sealable keys.privateKey)
    (claimable : Claimable enc e r s location userKeys deviceKeys publicKey uid) :
    ∃ response, done.value = .ok response := by
  -- What the encoder was asked for is what it answers by assumption.
  have created : ∀ {location' userKeys' deviceKeys' d answer time e' b},
      Begins r s location' userKeys' deviceKeys' →
      register r location' userKeys' deviceKeys' s.store = .ok d b →
      Spare s.store.tables b.tables →
      enc.answer (.createStream (streamRequest r location' d)) e = ((answer, time), e') →
      answer = .ok uid := by
    intro location' userKeys' deviceKeys' d answer time e' b begins registered spare asked
    obtain ⟨rfl, rfl, rfl⟩ := claimable.begins.unique begins
    obtain ⟨-, owner, request⟩ := register_requests held registered spare
    rw [request, claimable.owner.unique held owner] at asked
    have created := claimable.created
    rw [asked] at created
    exact created
  cases h with
  | refused same none => exact absurd claimable.begins (none _ _ _)
  | @unregistered location' userKeys' deviceKeys' error start t begins same unregistered =>
    have spare := spare (start, t) (by simp)
    rw [same] at unregistered spare
    have outcome := Registers.of_eq held unregistered spare
    have clear := no_obstacle opens ready (short _ _ begins.userKeys) (short _ _ begins.deviceKeys)
      (held.devices.not_inUse.1 claimable.token)
    generalize t.store = store at outcome
    cases outcome with
    | refused _ _ obstacle => exact absurd obstacle (clear _)
  | @uncreated location' userKeys' deviceKeys' d failure time e' start a b t begins same registered
      asked =>
    have first := spare (start, a) (by simp)
    rw [same] at registered first
    have created := created begins registered first asked
    contradiction
  | @unrecorded location' userKeys' deviceKeys' d uid' error time e' start a b c t begins same
      registered asked heard unrecorded =>
    have first := spare (start, a) (by simp)
    have last := spare (b, c) (by simp)
    rw [same] at registered first
    rw [heard] at unrecorded last
    obtain rfl : uid' = uid := Except.ok.inj (created begins registered first asked)
    exact absurd (recordStream_register held begins.valid registered first unrecorded last).2
      claimable.uid
  | claimed => exact ⟨_, rfl⟩

end ClaimEnds

/-- What a claim finds that comes after any turns of any calls: contents of which the keys open, and
sequences that do not come round in its turns. -/
theorem claim_finds {start : Registrar Store} {history : List Turn} {service : Service}
    (fresh : start.store.Fresh) (run : Service.Run start history service) (enc : Encoder E) (e : E)
    (r : ClaimRequest) (few : ∀ q, issuesOf q
      (history ++ ((claim r service.registrar).attend enc e).turns) < UInt64.size) :
    ∃ c, service.registrar.store.tables.Holds c ∧
      (∀ id row, c.users.get? id = some row → row.Opens service.registrar.store.cipher) ∧
      ∀ turn ∈ ((claim r service.registrar).attend enc e).turns,
        Spare turn.1.store.tables turn.2.store.tables := by
  have fewBefore : ∀ q, issuesOf q history < UInt64.size := by
    intro q
    have := few q
    rw [issuesOf_append] at this
    omega
  obtain ⟨chain, -⟩ := run.follows fresh fewBefore
  obtain ⟨⟨c, held, -, opens⟩, -, own⟩ := @call_evolves _ _ _ _ _ (.claim r) _ fresh chain
    (fun _ _ _ => Progress.Alone.chain) (Progress.attend_reaches enc e (claim r _)) few
  exact ⟨c, held, opens, fun turn taken => (own turn taken).2⟩

/-- A claim that comes after any turns of any calls succeeds if and only if it is claimable, given
randomness and keys that are short enough to be sealed. When it succeeds, it has added the rows that
it has to add, and it has had exactly one stream created: the one that it records. -/
theorem claim_exact {start : Registrar Store} {history : List Turn} {service : Service}
    (fresh : start.store.Fresh) (run : Service.Run start history service) (enc : Encoder E) (e : E)
    (r : ClaimRequest) (few : ∀ q, issuesOf q
      (history ++ ((claim r service.registrar).attend enc e).turns) < UInt64.size) :
    let s := service.registrar
    let done := (claim r s).attend enc e
    (s.store.entropy.Ready → (∀ n keys, s.keys.pair n = .ok keys → Sealable keys.privateKey) →
      ((∃ response, done.value = .ok response) ↔ ∃ location userKeys deviceKeys publicKey uid,
        Claimable enc e r s location userKeys deviceKeys publicKey uid)) ∧
    ∀ response, done.value = .ok response →
      ∃ location userKeys deviceKeys uid user device stream,
        Claimable enc e r s location userKeys deviceKeys user.publicKey uid ∧
        Claimed r location userKeys deviceKeys uid s.store.cipher s.store.tables user device stream
          response done.state.store.tables ∧
        done.exchanges =
          [⟨.createStream (requested r location deviceKeys user.publicKey), .ok uid⟩] := by
  obtain ⟨c, held, opens, spare⟩ := claim_finds fresh run enc e r few
  have ends := claim_attend enc e r service.registrar
  have effect := fun response => @ends.effect _ _ _ _ _ c _ held spare response
  refine ⟨?_, effect⟩
  intro ready short
  constructor
  · rintro ⟨response, succeeded⟩
    obtain ⟨location, userKeys, deviceKeys, uid, user, -, -, claimable, -⟩ :=
      effect response succeeded
    exact ⟨location, userKeys, deviceKeys, user.publicKey, uid, claimable⟩
  · rintro ⟨location, userKeys, deviceKeys, publicKey, uid, claimable⟩
    exact ends.succeeds held opens spare ready short claimable

theorem ClaimEnds.length {done : Attended (Registrar Store) E (Outcome ClaimResponse)}
    (h : ClaimEnds enc e r s done) : done.turns.length ≤ 4 := by
  cases h <;> simp

/-- An encoder that does what it is asked, and has one uid for all streams. -/
def willing : Encoder Unit where
  answer
    | .createStream _, e => ((.ok "stream", {}), e)
    | .deleteStream _, e => ((.ok (), {}), e)

/-- Where nobody has claimed anything, Alice can. -/
theorem alice_claimable {start : Registrar Store} (fresh : start.store.Fresh)
    (keys : start.keys = numberedKeys) :
    (∀ q, issuesOf q ([] ++ ((claim (aliceClaims "spare") start).attend willing ()).turns) <
      UInt64.size) ∧
    (∀ n keys, start.keys.pair n = .ok keys → Sealable keys.privateKey) ∧
    Claimable willing () (aliceClaims "spare") start aliceStands ⟨"private", "public 0"⟩
      ⟨"private", "public 1"⟩ "public 0" "stream" := by
  have ends := claim_attend willing () (aliceClaims "spare") start
  have few : ∀ q, issuesOf q
      ([] ++ ((claim (aliceClaims "spare") start).attend willing ()).turns) < UInt64.size := by
    intro q
    rw [List.nil_append]
    have bound := Nat.le_trans (issuesOf_le_length q _) ends.length
    exact Nat.lt_of_le_of_lt bound (by decide)
  have short : ∀ n keys, start.keys.pair n = .ok keys → Sealable keys.privateKey := by
    intro n pair made
    rw [keys, numberedKeys] at made
    exact Except.ok.inj made ▸ (show Sealable "private" by decide)
  have begins : Begins (aliceClaims "spare") start aliceStands ⟨"private", "public 0"⟩
      ⟨"private", "public 1"⟩ :=
    ⟨by decide +kernel, by rw [keys]; rfl, by rw [keys]; rfl⟩
  have held := fresh.holds
  exact ⟨few, short, begins, held.devices.not_inUse.2 nofun, .new (held.users.not_inUse.2 nofun), rfl,
    held.streams.not_inUse.2 nofun⟩

/-- She has one stream created. -/
theorem alice_created {start : Registrar Store} (fresh : start.store.Fresh)
    (keys : start.keys = numberedKeys) (ready : start.store.entropy.Ready) :
    let done := (claim (aliceClaims "spare") start).attend willing ()
    ∃ response request, done.value = .ok response ∧
      done.exchanges = [⟨.createStream request, .ok "stream"⟩] := by
  obtain ⟨few, short, claimable⟩ := alice_claimable fresh keys
  obtain ⟨c, held, opens, spare⟩ :=
    @claim_finds Unit start [] ⟨start, []⟩ fresh .start willing () (aliceClaims "spare") few
  have ends := claim_attend willing () (aliceClaims "spare") start
  obtain ⟨response, succeeded⟩ := ends.succeeds held opens spare ready short claimable
  obtain ⟨location, userKeys, deviceKeys, uid, user, -, -, claimed, -, created⟩ :=
    ends.effect held spare succeeded
  obtain rfl : uid = "stream" := (Except.ok.inj claimed.created).symm
  exact ⟨response, _, succeeded, created⟩

/-- Alice can claim her first device. -/
theorem alice_can_claim : ∃ start : Registrar Store, start.store.Fresh ∧
    start.keys = numberedKeys ∧ start.store.entropy.Ready ∧
    (∀ q, issuesOf q ([] ++ ((claim (aliceClaims "spare") start).attend willing ()).turns) <
      UInt64.size) ∧
    (∀ n keys, start.keys.pair n = .ok keys → Sealable keys.privateKey) ∧
    Claimable willing () (aliceClaims "spare") start aliceStands ⟨"private", "public 0"⟩
      ⟨"private", "public 1"⟩ "public 0" "stream" := by
  obtain ⟨start, fresh, keys, fit⟩ := exists_fresh numberedKeys numberedKeys_usable
  exact ⟨start, fresh, keys, fit.ready, alice_claimable fresh keys⟩

/-- Alice claims her first device. -/
theorem claim_exact_first : ∃ start : Registrar Store,
    let done := (claim (aliceClaims "spare") start).attend willing ()
    start.store.Fresh ∧ Service.Run start [] ⟨start, []⟩ ∧
    (∀ q, issuesOf q ([] ++ done.turns) < UInt64.size) ∧ start.store.entropy.Ready ∧
    (∀ n keys, start.keys.pair n = .ok keys → Sealable keys.privateKey) ∧
    Claimable willing () (aliceClaims "spare") start aliceStands ⟨"private", "public 0"⟩
      ⟨"private", "public 1"⟩ "public 0" "stream" ∧
    ∃ response, done.value = .ok response ∧
      ∃ location userKeys deviceKeys uid user device stream,
        Claimable willing () (aliceClaims "spare") start location userKeys deviceKeys
          user.publicKey uid ∧
        Claimed (aliceClaims "spare") location userKeys deviceKeys uid start.store.cipher
          start.store.tables user device stream response done.state.store.tables ∧
        done.exchanges = [⟨.createStream
          (requested (aliceClaims "spare") location deviceKeys user.publicKey), .ok uid⟩] := by
  obtain ⟨start, fresh, -, ready, few, short, claimable⟩ := alice_can_claim
  obtain ⟨succeeds, effect⟩ :=
    @claim_exact Unit start [] ⟨start, []⟩ fresh .start willing () (aliceClaims "spare") few
  dsimp only at succeeds effect
  obtain ⟨response, succeeded⟩ := (succeeds ready short).2 ⟨_, _, _, _, _, claimable⟩
  exact ⟨start, fresh, .start, few, ready, short, claimable, response, succeeded,
    effect response succeeded⟩

end Registrar
end DeviceRegistry
