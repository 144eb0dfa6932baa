import DeviceRegistry.Proofs.Encoder.Attendance
import DeviceRegistry.Proofs.Registrar.Interleaving
import DeviceRegistry.Proofs.Text.Base64

/-! Rows that the registrar files are sound: they have what validation asks for, and keys that can
be used. -/
namespace DeviceRegistry
open StoredRow

/-- Keys that were generated can be stored and asked for. -/
theorem KeyPair.usable_of_generate {draw : Draw} {keys : KeyPair}
    (generated : KeyPair.generate draw = .ok keys) : Registrar.Usable keys := by
  rw [generate] at generated
  split at generated
  · contradiction
  next secret drawn =>
  dsimp only at generated
  split at generated
  · obtain rfl := Except.ok.inj generated
    constructor
    · have length : secret.length = secretLength := by
        simpa using (Option.filter_eq_some_iff.1 drawn).2
      have letters := Base64.length_encodeList secret
      have bytes := Bytes.length_ofText_le (Base64.encode secret)
      rw [Base64.encode, String.toList_ofList] at bytes
      have short : 16 * secretLength ≤ Gcm.maximumLength := by decide
      show (Bytes.ofText (Base64.encode secret)).length ≤ _
      rw [Base64.encode]
      omega
    · exact Base64.encode_ne_empty (List.cons_ne_nil _ _)
  · contradiction

/-- A user that can be told apart, whose keys open and are of a kind. -/
structure UserRow.Sound (kind : KeyPair → Prop) (cipher : ColumnCipher) (row : UserRow) : Prop where
  uid : row.uid ≠ ""
  keys : ∃ key, cipher.decryptText Transaction.userKeyColumn row.privateKey = .ok key ∧
    kind ⟨key, row.publicKey⟩

theorem UserRow.Sound.opens {kind : KeyPair → Prop} {cipher : ColumnCipher} {row : UserRow}
    (h : row.Sound kind cipher) : row.Opens cipher := by
  obtain ⟨key, opens, -⟩ := h.keys
  exact ⟨key, opens⟩

/-- A device that can be asked for, at a place. -/
structure DeviceRow.Sound (row : DeviceRow) : Prop where
  token : row.token ≠ ""
  place : row.location.IsPlace

structure Contents.Sound (kind : KeyPair → Prop) (cipher : ColumnCipher) (c : Contents) : Prop where
  users : ∀ id row, c.users.get? id = some row → row.Sound kind cipher
  devices : ∀ id row, c.devices.get? id = some row → row.Sound

/-- The store holds sound rows. Every device can be read, and every user owns one. -/
def Store.Sound (kind : KeyPair → Prop) (s : Store) : Prop :=
  ∃ c, s.tables.Holds c ∧ c.Settled ∧ c.Sound kind s.cipher

variable {kind : KeyPair → Prop}

theorem Store.Sound.settled {s : Store} (h : s.Sound kind) : s.Settled := by
  obtain ⟨c, held, settled, -⟩ := h
  exact ⟨c, held, settled⟩

theorem Store.Fresh.sound {s : Store} (h : s.Fresh) : s.Sound kind :=
  ⟨{}, h.holds, Contents.settled_empty, nofun, nofun⟩

namespace Contents.Sound

variable {cipher : ColumnCipher} {c c' : Contents} {user : UserRow} {device : DeviceRow}

theorem enrolled (h : c.Sound kind cipher) (enrolled : c.Enrolled user device c')
    (sound : user.Sound kind cipher) (sound' : device.Sound) : c'.Sound kind cipher where
  users := by
    intro id row there
    rcases enrolled.eq_or_old_user there with rfl | old
    · exact sound
    · exact h.users id row old
  devices := by
    intro id row there
    by_cases same : id = device.id
    · rw [same, enrolled.device_get?] at there
      exact Option.some.inj there ▸ sound'
    · rw [enrolled.devices_get? same] at there
      exact h.devices id row there

theorem removed {id owner : UInt64} (h : c.Sound kind cipher) (gone : c.Removed id owner c') :
    c'.Sound kind cipher where
  users other row there := h.users other row (gone.old_user there)
  devices := by
    intro other row there
    by_cases same : other = id
    · rw [same, gone.devices_gone] at there
      contradiction
    · rw [gone.devices_get? same] at there
      exact h.devices other row there

end Contents.Sound

namespace Registrar

variable {s t : Store}

/-- A turn with keys of the kind leaves sound rows behind. -/
theorem ActsWith.sound (h : ActsWith kind s t) (sound : s.Sound kind)
    (spare : Spare s.tables t.tables) : t.Sound kind := by
  obtain ⟨c, held, settled, sound⟩ := sound
  cases h with
  | idle => exact ⟨c, held, settled, sound⟩
  | @registers r location valid userKeys deviceKeys given _ =>
    have outcome := register_outcome held spare
    clear spare
    generalize register r location userKeys deviceKeys s = result at outcome ⊢
    cases outcome with
    | refused => exact ⟨c, held, settled, sound⟩
    | @registered user device key c' tables entropy later uid owner opens described enrolled held' =>
      obtain ⟨token, -, userUid, -, place⟩ := ClaimRequest.validate_ok.1 valid
      have finite : device.IsFinite := by
        rw [DeviceRow.IsFinite, described.place]
        exact ⟨place.longitude.finite, place.latitude.finite⟩
      have user : user.Sound kind s.cipher := by
        cases owner with
        | known there => exact sound.users _ _ there
        | new new next publicKey => exact ⟨uid ▸ userUid, userKeys.privateKey, opens, publicKey ▸ given⟩
      exact ⟨c', held', enrolled.settled held.valid settled finite,
        sound.enrolled enrolled user ⟨described.token ▸ token, described.place ▸ place⟩⟩
  | records device uid =>
    have outcome := recordStream_outcome held device uid spare
    clear spare
    generalize recordStream device uid s = result at outcome ⊢
    cases outcome with
    | refused => exact ⟨c, held, settled, sound⟩
    | @recorded stream c' tables mine attached held' made =>
      refine ⟨c', held', attached.settled settled, ?_⟩
      rw [attached.made]
      exact ⟨sound.users, sound.devices⟩
  | removes token publicKey =>
    have outcome := removeDevice_outcome held token publicKey
    clear spare
    generalize removeDevice token publicKey s = result at outcome ⊢
    cases outcome with
    | refused => exact ⟨c, held, settled, sound⟩
    | @removed id device owner streams c' tables granted all removed held' sequences metadata =>
      exact ⟨c', held', removed.settled granted.there settled, sound.removed removed⟩

/-- What is known of a call that is attended to after any turns of any calls, if the registrar makes
keys of a kind: the rows are sound before and after it, and there was room for the ids that its turns
issued. -/
structure AttendedSoundly (kind : KeyPair → Prop) (s : Registrar Store) {E α : Type}
    (done : Attended (Registrar Store) E α) : Prop where
  before : s.store.Sound kind
  after : done.state.store.Sound kind
  keys : s.keys.Makes kind
  spare : ∀ turn ∈ done.turns, Spare turn.1.store.tables turn.2.store.tables
  evolves : s.store.Evolves done.state.store

theorem Service.Run.attended {start : Registrar Store} {history : List Turn} {service : Service}
    (fresh : start.store.Fresh) (makes : start.keys.Makes kind) (run : Run start history service)
    {E : Type} (enc : Encoder E) (e : E) (call : Call)
    (few : ∀ q, issuesOf q (history ++ ((call.work service.registrar).attend enc e).turns) <
      UInt64.size) :
    AttendedSoundly kind service.registrar ((call.work service.registrar).attend enc e) := by
  have keeps : ∀ {s t : Registrar Store}, TurningWith kind s t → s.store.Sound kind →
      Spare s.store.tables t.store.tables → s.store.Evolves t.store ∧ t.store.Sound kind :=
    fun turn sound spare =>
      ⟨turn.acts.acts.evolves sound.settled spare, turn.acts.sound sound spare⟩
  have onward : ∀ {s t : Registrar Store}, TurningWith kind s t → s.store.Sound kind →
      Onward s.store.tables t.store.tables :=
    fun turn sound => turn.acts.acts.onward sound.settled
  have settled : ∀ s : Store, s.Sound kind → s.Settled := fun s sound => sound.settled
  obtain ⟨chain, keys⟩ := run.supplied makes
  simp only [issuesOf_append] at few
  have fewBefore : ∀ q, 0 + issuesOf q history < UInt64.size := by
    intro q
    have := few q
    omega
  obtain ⟨-, before, within, -⟩ :=
    chain_keeps settled onward keeps chain fresh.sound fresh.within fewBefore
  obtain ⟨same, -, turns⟩ := call.work_turns_with keys
  have own := (Progress.attend_reaches enc e (call.work service.registrar)).chain
    (fun _ _ _ => Progress.Alone.chain) turns
  obtain ⟨evolves, after, -, each⟩ := chain_keeps settled onward keeps own (same ▸ before)
    (same ▸ within) (by simpa using few)
  exact ⟨before, after, keys, fun turn taken => (each turn taken).2.2.2, same ▸ evolves⟩

end Registrar
end DeviceRegistry
