import DeviceRegistry.Proofs.Registrar.ClaimEffect
import DeviceRegistry.Proofs.Registrar.RevokeEffect
import DeviceRegistry.Proofs.Registrar.Soundness

/-! A claim and then its revoke leave everything as it was but the sequences: the owner goes if he
came with the claim, and stays if he was there before. -/
namespace DeviceRegistry
open StoredRow

/-- The rows are the same. The ids of a device and of a stream were issued, and perhaps that of a
user. -/
structure Contents.Advanced (c c' : Contents) : Prop where
  rows : c'.SameRows c
  users : c.lastUser ≤ c'.lastUser
  devices : c'.lastDevice = c.lastDevice + 1
  streams : c'.lastStream = c.lastStream + 1

/-- Nothing but the sequences has changed: the ids of a device and of a stream were issued, and
perhaps that of a user. -/
structure Tables.Advanced (t t' : Tables) : Prop where
  same : t' = { t with sequences := t'.sequences }
  users : t.issued "users" ≤ t'.issued "users"
  devices : t'.issued "devices" = t.issued "devices" + 1
  streams : t'.issued "streams" = t.issued "streams" + 1

theorem Tables.Holds.advanced {t t' : Tables} {c c' : Contents} (held : t.Holds c)
    (held' : t'.Holds c') (h : c.Advanced c') (metadata : t'.metadata = t.metadata) :
    t.Advanced t' where
  same := (held'.sameRecords held h.rows).eq metadata
  users := by
    rw [held.lastUser, held'.lastUser]
    exact h.users
  devices := by
    rw [held.lastDevice, held'.lastDevice]
    exact h.devices
  streams := by
    rw [held.lastStream, held'.lastStream]
    exact h.streams

/-- A device that was registered and given a stream is removed with the stream, and then the rows are
those from before. -/
theorem Contents.Enrolled.undone_attached {c c₁ c₂ c₃ : Contents} {user : UserRow}
    {device : DeviceRow} {stream : StreamRow} (h : c.Enrolled user device c₁) (valid : c.Valid)
    (settled : c.Settled) (valid₁ : c₁.Valid) (attached : c₁.Attached device.id stream c₂)
    (gone : c₂.Removed device.id device.userId c₃) :
    c.Advanced c₃ ∧ c₂.StreamsOf device.id [stream] := by
  -- Without the stream the removal would give back the rows; with it the same rows are left.
  obtain ⟨rest, removed, same⟩ := attached.removed valid₁ gone
  obtain ⟨before, -⟩ := h.undone valid settled removed
  have users := ((h.precedes.trans attached.precedes).trans gone.precedes).users.le
  obtain ⟨devices, streams⟩ : c₃.lastDevice = c₂.lastDevice ∧ c₃.lastStream = c₂.lastStream := by
    cases gone <;> exact ⟨rfl, rfl⟩
  obtain ⟨devices', streams'⟩ : c₁.lastDevice = device.id ∧ c₁.lastStream = c.lastStream := by
    obtain ⟨_, joined, rfl⟩ := h.joined
    exact ⟨rfl, joined.lastStream⟩
  have first : ∀ other row, c₁.streams.get? other = some row → row.deviceId ≠ device.id := by
    intro other row there
    rw [h.streams] at there
    exact valid.streams_ne (Contents.valid_fresh valid h.room h.next) there
  refine ⟨⟨?_, users, ?_, ?_⟩, attached.streamsOf first⟩
  · exact ⟨same.users.trans before.users, same.devices.trans before.devices,
      same.streams.trans before.streams⟩
  · rw [devices, attached.made, ← h.next]
    exact devices'
  · rw [streams, attached.made, ← streams', ← attached.next]
    rfl

namespace Registrar

variable {c : Contents} {a a' t u : Store} {r : ClaimRequest} {location : Location}
  {userKeys deviceKeys : KeyPair} {d : Registered} {uid : String}

/-- The owner of a device that is registered has a name for his key, be he new or not. -/
theorem register_named (held : a.tables.Holds c)
    (named : ∀ id row, c.users.get? id = some row → row.publicKey ≠ "")
    (given : userKeys.publicKey ≠ "")
    (registered : register r location userKeys deviceKeys a = .ok d a')
    (spare : Spare a.tables a'.tables) : d.user.keys.publicKey ≠ "" := by
  have outcome := Registers.of_eq held registered spare
  cases outcome with
  | @registered user device key c' tables entropy later mine owner =>
    cases owner with
    | known there => exact named _ _ there
    | new new next publicKey => exact publicKey ▸ given

/-- A device that was registered and given a stream is removed with the stream, by its token and the
key of its owner. All tables are then as before, except for the sequences. -/
theorem removeDevice_claimed (held : a.tables.Holds c) (settled : c.Settled)
    (valid : r.validate = .ok location)
    (registered : register r location userKeys deviceKeys a = .ok d a')
    (spare : Spare a.tables a'.tables) (recorded : recordStream d.device.id uid a' = .ok () t)
    (spare' : Spare a'.tables t.tables) :
    ∃ gone u stream, removeDevice r.deviceToken d.user.keys.publicKey t = .ok gone u ∧
      gone.streams = [stream] ∧ stream.uid = uid ∧ a.tables.Advanced u.tables := by
  have outcome := Registers.of_eq held registered spare
  cases outcome with
  | @registered user device key c₁ tables entropy later mine owner opens described enrolled held₁ =>
    have outcome := Recorded.of_eq held₁ recorded spare'
    cases outcome with
    | @recorded stream c₂ tables' named attached held₂ made =>
      obtain ⟨-, finite⟩ := ClaimRequest.location_of_validate valid
      rw [← described.place] at finite
      -- The token is unique, so that nothing else can be found by it.
      have granted : c₂.Grants r.deviceToken user.publicKey device.id device user := by
        obtain ⟨there, token, finite, owned, key⟩ := enrolled.grants finite
        rw [attached.made]
        exact ⟨there, token.trans described.token, finite, owned, key⟩
      have outcome := @removeDevice_outcome ⟨tables', a.cipher, entropy⟩ _ held₂ r.deviceToken
        user.publicKey
      dsimp only
      generalize removeDevice r.deviceToken user.publicKey (Store.mk tables' a.cipher entropy) =
        result at outcome ⊢
      cases outcome with
      | refused e none => exact absurd granted (none _ _ _)
      | @removed id row owner' streams c₃ tables'' granted' all removed held₃ sequences metadata =>
        obtain rfl := granted'.unique held₂ granted
        obtain rfl : row = device := Option.some.inj (granted'.there.symm.trans granted.there)
        obtain ⟨advanced, own⟩ :=
          enrolled.undone_attached held.valid settled held₁.valid attached removed
        obtain rfl : streams = [stream] := all.unique own
        have kept : tables''.metadata = a.tables.metadata := by
          rw [metadata, made]
          cases owner <;> rfl
        exact ⟨_, _, stream, rfl, rfl, named, held.advanced held₃ advanced kept⟩

/-- What a claim does that succeeds is undone by the revoke of its device, given that users and new key
pairs have public keys. -/
theorem ClaimEnds.undone {E : Type} {enc : Encoder E} {e : E} {s : Registrar Store}
    {done : Attended (Registrar Store) E (Outcome ClaimResponse)} (h : ClaimEnds enc e r s done)
    (held : s.store.tables.Holds c) (settled : c.Settled)
    (named : ∀ id row, c.users.get? id = some row → row.publicKey ≠ "")
    (given : s.keys.Makes fun keys => keys.publicKey ≠ "")
    (spare : ∀ turn ∈ done.turns, Spare turn.1.store.tables turn.2.store.tables)
    {response : ClaimResponse} (succeeded : done.value = .ok response) :
    let revoked := (revoke ⟨r.deviceToken, response.userPublicKey⟩ done.state).attend enc done.encoder
    ∃ request uid, done.exchanges = [⟨.createStream request, .ok uid⟩] ∧
      ((enc.answer (.deleteStream uid) done.encoder).1.1 = .ok () →
        revoked.value = .ok {} ∧ revoked.exchanges = [⟨.deleteStream uid, .ok ()⟩] ∧
        s.store.tables.Advanced revoked.state.store.tables) := by
  cases h with
  | refused => cases succeeded
  | unregistered => cases succeeded
  | uncreated => cases succeeded
  | unrecorded => cases succeeded
  | @claimed location userKeys deviceKeys d uid time e' start a b t begins same registered asked heard
      recorded =>
    obtain rfl := Except.ok.inj succeeded
    have first := spare (start, a) (by simp)
    have last := spare (b, t) (by simp)
    rw [heard] at recorded last
    rw [same] at registered first
    -- The answer tells the key that is stored, which an owner who was there before did not get from
    -- this claim.
    have key := register_named held named (given _ _ begins.userKeys) registered first
    obtain ⟨gone, u, stream, removed, own, mine, advanced⟩ :=
      removeDevice_claimed held settled begins.valid registered first recorded last
    refine ⟨_, uid, rfl, ?_⟩
    intro accepted
    have valid : (RevokeRequest.mk r.deviceToken d.user.keys.publicKey).validate = .ok () :=
      RevokeRequest.validate_ok.2 ⟨(ClaimRequest.validate_ok.1 begins.valid).1, key⟩
    obtain ⟨t', same', -, revoked⟩ := revoke_attend enc e' valid
    rw [← same'.store] at removed
    obtain ⟨store, value, exchanges⟩ := @removing_attend_single _ t'
      ⟨r.deviceToken, d.user.keys.publicKey⟩ enc e' gone u stream removed own (mine ▸ accepted)
    rw [response, revoked]
    refine ⟨value, ?_, ?_⟩
    · rw [← mine]
      exact exchanges
    · rw [← store] at advanced
      exact advanced

/-- A claim that succeeds after any turns of any calls has one stream created. When its device is
revoked then, with the key of the answer, and the encoder deletes that stream, the revoke succeeds
with this one exchange, and nothing is left of the claim but the ids that it used up. Key pairs have
a public key, as generated ones do. -/
theorem Service.claim_revoke {start : Registrar Store} {history : List Turn} {service : Service}
    (fresh : start.store.Fresh) (named : start.keys.Makes fun keys => keys.publicKey ≠ "")
    (run : Service.Run start history service) {E : Type} (enc : Encoder E) (e : E) (r : ClaimRequest)
    (few : ∀ q, issuesOf q (history ++ ((claim r service.registrar).attend enc e).turns) <
      UInt64.size)
    {response : ClaimResponse}
    (succeeded : ((claim r service.registrar).attend enc e).value = .ok response) :
    let s := service.registrar
    let claimed := (claim r s).attend enc e
    let revoked := (revoke ⟨r.deviceToken, response.userPublicKey⟩ claimed.state).attend enc
      claimed.encoder
    ∃ request uid, claimed.exchanges = [⟨.createStream request, .ok uid⟩] ∧
      ((enc.answer (.deleteStream uid) claimed.encoder).1.1 = .ok () →
        revoked.value = .ok {} ∧ revoked.exchanges = [⟨.deleteStream uid, .ok ()⟩] ∧
        s.store.tables.Advanced revoked.state.store.tables) := by
  obtain ⟨⟨c, held, settled, sound⟩, -, given, spare, -⟩ :=
    run.attended fresh named enc e (.claim r) few
  have users : ∀ id row, c.users.get? id = some row → row.publicKey ≠ "" := by
    intro id row there
    obtain ⟨key, -, named⟩ := (sound.users id row there).keys
    exact named
  exact (claim_attend enc e r service.registrar).undone held settled users given spare succeeded

/-- Alice claims her first device, and gives it back. -/
theorem Service.claim_revoke_alice : ∃ (start : Registrar Store) (response : ClaimResponse),
    let claimed := (claim (aliceClaims "spare") start).attend willing ()
    let revoked := (revoke ⟨"spare", response.userPublicKey⟩ claimed.state).attend willing
      claimed.encoder
    start.store.Fresh ∧ (start.keys.Makes fun keys => keys.publicKey ≠ "") ∧
    Service.Run start [] ⟨start, []⟩ ∧
    (∀ q, issuesOf q ([] ++ claimed.turns) < UInt64.size) ∧ claimed.value = .ok response ∧
    ∃ request uid, claimed.exchanges = [⟨.createStream request, .ok uid⟩] ∧
      revoked.value = .ok {} ∧ revoked.exchanges = [⟨.deleteStream uid, .ok ()⟩] ∧
      start.store.tables.Advanced revoked.state.store.tables := by
  obtain ⟨start, fresh, keys, ready, few, short, claimable⟩ := alice_can_claim
  have named : start.keys.Makes fun keys => keys.publicKey ≠ "" := by
    intro n pair made
    obtain ⟨pair', made', usable⟩ := numberedKeys_usable n
    rw [keys, made'] at made
    exact Except.ok.inj made ▸ usable.named
  have run : Service.Run start [] ⟨start, []⟩ := .start
  obtain ⟨-, -, -, spare, -⟩ := run.attended fresh named willing () (.claim (aliceClaims "spare")) few
  obtain ⟨response, succeeded⟩ := (claim_attend willing () (aliceClaims "spare") start).succeeds
    fresh.holds nofun spare ready short claimable
  obtain ⟨request, uid, exchanged, revoked⟩ :=
    Service.claim_revoke fresh named run willing () (aliceClaims "spare") few succeeded
  exact ⟨start, response, fresh, named, run, few, succeeded, request, uid, exchanged, revoked rfl⟩

end Registrar
end DeviceRegistry
