import DeviceRegistry.Proofs.Registrar.Steps
import DeviceRegistry.Proofs.Registrar.Transactions
import DeviceRegistry.Proofs.Registrar.Validation
import DeviceRegistry.Proofs.Store.Session

/-! What the turns of claims and revokes make of a store. Whatever their order, its users own
devices, its devices can be read, and an id that was issued never comes to name another row. -/
namespace DeviceRegistry

theorem Succeeds.encoded {ρ : Type} [StoredRow ρ] [Keyed ρ] {last last' : UInt64}
    {rows rows' : Table UInt64 Bytes} {index index' : Table String UInt64} {c c' : Table UInt64 ρ}
    (h : Succeeds last c last' c') (shelf : Shelf rows index c) (shelf' : Shelf rows' index' c') :
    Succeeds last rows last' rows' where
  le := h.le
  kept id b issued there := by
    obtain ⟨row, found, rfl⟩ := shelf'.exists_row there
    exact shelf.get?_row (h.kept id row issued found)

/-- A row that was issued and is still there is the same. -/
theorem Succeeds.same_row {ρ : Type} [StoredRow ρ] [Keyed ρ] {last last' : UInt64}
    {rows rows' : Table UInt64 Bytes} {index index' : Table String UInt64} {c c' : Table UInt64 ρ}
    (h : Succeeds last rows last' rows') (shelf : Shelf rows index c) (shelf' : Shelf rows' index' c')
    (issued : IssuedBy last c) {id : UInt64} {row row' : ρ} (there : c.get? id = some row)
    (there' : c'.get? id = some row') : StoredRow.encode row' = StoredRow.encode row := by
  have before := h.kept id _ (issued id row there).2 (shelf'.get?_row there')
  rw [shelf.get?_row there] at before
  exact (Option.some.inj before).symm

namespace Tables

structure Precedes (t t' : Tables) : Prop where
  users : Succeeds (t.issued "users") t.users (t'.issued "users") t'.users
  devices : Succeeds (t.issued "devices") t.devices (t'.issued "devices") t'.devices
  streams : Succeeds (t.issued "streams") t.streams (t'.issued "streams") t'.streams

theorem Precedes.trans {t t' t'' : Tables} (h : t.Precedes t') (h' : t'.Precedes t'') :
    t.Precedes t'' :=
  ⟨h.users.trans h'.users, h.devices.trans h'.devices, h.streams.trans h'.streams⟩

theorem Holds.precedes {t t' : Tables} {c c' : Contents} (h : t.Holds c) (h' : t'.Holds c')
    (before : c.Precedes c') : t.Precedes t' where
  users := by
    rw [h.lastUser, h'.lastUser]
    exact before.users.encoded h.users h'.users
  devices := by
    rw [h.lastDevice, h'.lastDevice]
    exact before.devices.encoded h.devices h'.devices
  streams := by
    rw [h.lastStream, h'.lastStream]
    exact before.streams.encoded h.streams h'.streams

end Tables

namespace Store

/-- A store between transactions: it holds contents of which every device can be read and every
user owns one. -/
def Settled (s : Store) : Prop := ∃ c, s.tables.Holds c ∧ c.Settled

/-- Moreover the keys of its users open. -/
def Legible (s : Store) : Prop :=
  ∃ c, s.tables.Holds c ∧ c.Settled ∧ ∀ id row, c.users.get? id = some row → row.Opens s.cipher

structure Evolves (s t : Store) : Prop where
  before : s.Settled
  after : t.Settled
  precedes : s.tables.Precedes t.tables
  cipher : t.cipher = s.cipher

namespace Evolves

variable {s t u : Store} {c c' : Contents}

theorem of_contents (held : s.tables.Holds c) (settled : c.Settled) (held' : t.tables.Holds c')
    (settled' : c'.Settled) (before : c.Precedes c') (cipher : t.cipher = s.cipher) : s.Evolves t :=
  ⟨⟨c, held, settled⟩, ⟨c', held', settled'⟩, held.precedes held' before, cipher⟩

theorem refl (h : s.Settled) : s.Evolves s := by
  obtain ⟨c, held, settled⟩ := h
  exact .of_contents held settled held settled (.refl c) rfl

theorem trans (h : s.Evolves t) (h' : t.Evolves u) : s.Evolves u :=
  ⟨h.before, h'.after, h.precedes.trans h'.precedes, h'.cipher.trans h.cipher⟩

/-- A device that was registered and is still there has kept its owner. -/
theorem enrolled (h : s.Evolves t) {start now : Contents} {user : UserRow} {device row : DeviceRow}
    (enrolled : start.Enrolled user device c) (held : s.tables.Holds c) (heldNow : t.tables.Holds now)
    (found : now.devices.get? device.id = some row) :
    StoredRow.encode row = StoredRow.encode device ∧ now.users.get? user.id = some user := by
  have same : StoredRow.encode row = StoredRow.encode device :=
    h.precedes.devices.same_row held.devices heldNow.devices (held.lastDevice ▸ held.valid.devices)
      enrolled.device_get? found
  obtain ⟨owner, owned⟩ := heldNow.valid.owner _ row found
  rw [DeviceRow.userId_eq same, enrolled.owner] at owned
  have sameOwner := h.precedes.users.same_row held.users heldNow.users
    (held.lastUser ▸ held.valid.users) enrolled.user_get? owned
  rw [UserRow.encode_injective sameOwner] at owned
  exact ⟨same, owned⟩

end Evolves

theorem Fresh.settled {s : Store} (h : s.Fresh) : s.Settled :=
  ⟨{}, h.holds, Contents.settled_empty⟩

theorem Fresh.legible {s : Store} (h : s.Fresh) : s.Legible :=
  ⟨{}, h.holds, Contents.settled_empty, nofun⟩

end Store

/-- A request that can be worked on has a location, which is a place. -/
theorem ClaimRequest.location_of_validate {r : ClaimRequest} {l : Location}
    (valid : r.validate = .ok l) :
    r.location = some l ∧ l.longitude.isFinite = true ∧ l.latitude.isFinite = true := by
  obtain ⟨-, -, -, given, place⟩ := ClaimRequest.validate_ok.1 valid
  exact ⟨given, place.longitude.finite, place.latitude.finite⟩

/-- Contents that were changed as a whole: a device was enrolled, a stream was attached to one, or a
device was removed with what belongs to it. The key of the device's owner opens. -/
inductive Contents.Amended (cipher : ColumnCipher) (c : Contents) : Contents → Prop where
  | same : c.Amended cipher c
  | enrolled {user : UserRow} {device : DeviceRow} {c' : Contents}
      (enrolled : c.Enrolled user device c') (finite : device.IsFinite) (opens : user.Opens cipher) :
      c.Amended cipher c'
  | attached {device : UInt64} {stream : StreamRow} {c' : Contents}
      (attached : c.Attached device stream c') : c.Amended cipher c'
  | removed {id : UInt64} {device : DeviceRow} {c' : Contents}
      (there : c.devices.get? id = some device) (removed : c.Removed id device.userId c') :
      c.Amended cipher c'

namespace Registrar

/-- What a turn may do with the store: nothing, or one transaction. -/
inductive Acts : Store → Store → Prop where
  | idle (s : Store) : Acts s s
  | registers {r : ClaimRequest} {location : Location} (valid : r.validate = .ok location)
      (userKeys deviceKeys : KeyPair) (s : Store) :
      Acts s (stateAfter (register r location userKeys deviceKeys s))
  | records (device : UInt64) (uid : String) (s : Store) :
      Acts s (stateAfter (recordStream device uid s))
  | removes (token publicKey : String) (s : Store) :
      Acts s (stateAfter (removeDevice token publicKey s))

/-- What a turn may do with the store if the keys of users and devices are of a kind. -/
inductive ActsWith (kind : KeyPair → Prop) : Store → Store → Prop where
  | idle (s : Store) : ActsWith kind s s
  | registers {r : ClaimRequest} {location : Location} (valid : r.validate = .ok location)
      {userKeys deviceKeys : KeyPair} (user : kind userKeys) (device : kind deviceKeys) (s : Store) :
      ActsWith kind s (stateAfter (register r location userKeys deviceKeys s))
  | records (device : UInt64) (uid : String) (s : Store) :
      ActsWith kind s (stateAfter (recordStream device uid s))
  | removes (token publicKey : String) (s : Store) :
      ActsWith kind s (stateAfter (removeDevice token publicKey s))

theorem ActsWith.acts {kind : KeyPair → Prop} {s t : Store} (h : ActsWith kind s t) : Acts s t := by
  cases h with
  | idle => exact .idle s
  | registers valid => exact .registers valid _ _ s
  | records device uid => exact .records device uid s
  | removes token publicKey => exact .removes token publicKey s

namespace Acts

variable {s t : Store}

theorem same_after (h : Acts s t) {u : Store} (same : u = t) : Acts s u := same ▸ h

theorem onward (h : Acts s t) (settled : s.Settled) : Onward s.tables t.tables := by
  obtain ⟨c, held, -⟩ := settled
  cases h with
  | idle => exact .refl _
  | registers => exact register_onward held _ _ _ _
  | records => exact recordStream_onward held _ _
  | removes token publicKey =>
    have outcome := removeDevice_outcome held token publicKey
    generalize removeDevice token publicKey s = result at outcome ⊢
    cases outcome with
    | refused => exact .refl _
    | removed granted all removed held sequences =>
      intro q
      exact .inl (Tables.issued_congr sequences q)

/-- A turn changes the tables by one of the three, if it changes them. It leaves the metadata and the
cipher alone. -/
theorem amends (h : Acts s t) {c : Contents} (held : s.tables.Holds c)
    (spare : Spare s.tables t.tables) :
    ∃ c', t.tables.Holds c' ∧ c.Amended s.cipher c' ∧
      t.tables.metadata = s.tables.metadata ∧ t.cipher = s.cipher := by
  cases h with
  | idle => exact ⟨c, held, .same, rfl, rfl⟩
  | @registers r location valid userKeys deviceKeys =>
    have outcome := register_outcome held spare
    clear spare
    generalize register r location userKeys deviceKeys s = result at outcome ⊢
    cases outcome with
    | refused => exact ⟨c, held, .same, rfl, rfl⟩
    | @registered user device key c' tables entropy later uid owner opens described enrolled held' =>
      obtain ⟨-, finite⟩ := ClaimRequest.location_of_validate valid
      rw [← described.place] at finite
      have metadata : tables.metadata = s.tables.metadata := by cases owner <;> rfl
      exact ⟨c', held', .enrolled enrolled finite ⟨key, opens⟩, metadata, rfl⟩
  | records device uid =>
    have outcome := recordStream_outcome held device uid spare
    clear spare
    generalize recordStream device uid s = result at outcome ⊢
    cases outcome with
    | refused => exact ⟨c, held, .same, rfl, rfl⟩
    | @recorded stream c' tables mine attached held' made =>
      have metadata : tables.metadata = s.tables.metadata := by
        rw [made]
        rfl
      exact ⟨c', held', .attached attached, metadata, rfl⟩
  | removes token publicKey =>
    have outcome := removeDevice_outcome held token publicKey
    clear spare
    generalize removeDevice token publicKey s = result at outcome ⊢
    cases outcome with
    | refused => exact ⟨c, held, .same, rfl, rfl⟩
    | @removed id device owner streams c' tables granted all removed held' sequences metadata =>
      exact ⟨c', held', .removed granted.there removed, metadata, rfl⟩

/-- What a turn makes of the contents. The key of a user that it adds opens. -/
theorem changes (h : Acts s t) {c : Contents} (held : s.tables.Holds c) (settled : c.Settled)
    (spare : Spare s.tables t.tables) :
    ∃ c', t.tables.Holds c' ∧ c'.Settled ∧ c.Precedes c' ∧ t.cipher = s.cipher ∧
      ∀ id row, c'.users.get? id = some row → c.users.get? id = some row ∨ row.Opens s.cipher := by
  obtain ⟨c', held', amended, -, cipher⟩ := h.amends held spare
  refine ⟨c', held', ?_⟩
  cases amended with
  | same => exact ⟨settled, .refl c, cipher, fun _ _ => .inl⟩
  | enrolled enrolled finite opens =>
    refine ⟨enrolled.settled held.valid settled finite, enrolled.precedes, cipher, ?_⟩
    intro id row there
    rcases enrolled.eq_or_old_user there with rfl | old
    · exact .inr opens
    · exact .inl old
  | attached attached =>
    refine ⟨attached.settled settled, attached.precedes, cipher, ?_⟩
    rw [attached.made]
    exact fun _ _ => .inl
  | removed there removed =>
    exact ⟨removed.settled there settled, removed.precedes, cipher,
      fun _ _ found => .inl (removed.old_user found)⟩

theorem evolves (h : Acts s t) (settled : s.Settled) (spare : Spare s.tables t.tables) :
    s.Evolves t := by
  obtain ⟨c, held, settled⟩ := settled
  obtain ⟨c', held', settled', before, cipher, -⟩ := h.changes held settled spare
  exact .of_contents held settled held' settled' before cipher

theorem legible (h : Acts s t) (legible : s.Legible) (spare : Spare s.tables t.tables) :
    t.Legible := by
  obtain ⟨c, held, settled, opens⟩ := legible
  obtain ⟨c', held', settled', -, cipher, users⟩ := h.changes held settled spare
  refine ⟨c', held', settled', ?_⟩
  intro id row there
  rw [cipher]
  exact (users id row there).elim (opens id row) fun new => new

end Acts
end Registrar
end DeviceRegistry
