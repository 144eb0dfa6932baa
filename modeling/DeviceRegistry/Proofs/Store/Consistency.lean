import DeviceRegistry.Proofs.Store.Operations

/-! Consistency of the tables: what has to be true of them whatever was done before. Rows with the
id of their place, indexes that are the inverses of the unique columns, relations that list the
references, references to rows that are there, and ids that were issued. -/
namespace DeviceRegistry
open StoredRow

/-- A row is filed under an id, in its stored form. -/
def Stores {ρ : Type} [StoredRow ρ] (rows : Table UInt64 Bytes) (id : UInt64) (row : ρ) : Prop :=
  rows.get? id = some (encode row)

/-- Rows of one kind, the index of their unique column, and the last id issued for them. -/
structure ConsistentRows (ρ : Type) [StoredRow ρ] [Keyed ρ] (rows : Table UInt64 Bytes)
    (index : Table String UInt64) (last : UInt64) : Prop where
  own : ∀ id b, rows.get? id = some b → ∃ row : ρ, b = encode row ∧ Keyed.id row = id
  /-- The index is the inverse of the unique column. -/
  inverse : ∀ key id, index.get? key = some id ↔ ∃ row : ρ, Stores rows id row ∧ Keyed.key row = key
  issued : ∀ id b, rows.get? id = some b → 1 ≤ id ∧ id ≤ last

/-- The tables of a store agree with each other. -/
structure Tables.Consistent (t : Tables) : Prop where
  users : ConsistentRows UserRow t.users t.usersByUid (t.issued "users")
  devices : ConsistentRows DeviceRow t.devices t.devicesByToken (t.issued "devices")
  streams : ConsistentRows StreamRow t.streams t.streamsByUid (t.issued "streams")
  userDevices : ∀ link, t.userDevices.get? link = some () ↔
    ∃ row : DeviceRow, Stores t.devices link.member row ∧ row.userId = link.owner
  deviceStreams : ∀ link, t.deviceStreams.get? link = some () ↔
    ∃ row : StreamRow, Stores t.streams link.member row ∧ row.deviceId = link.owner
  owner : ∀ id (row : DeviceRow), Stores t.devices id row → (t.users.get? row.userId).isSome
  device : ∀ id (row : StreamRow), Stores t.streams id row → (t.devices.get? row.deviceId).isSome

/-- Rows that are stored alike have the same value in the unique column. -/
class TellsKey (ρ : Type) [StoredRow ρ] [Keyed ρ] : Prop where
  key_eq : ∀ {row row' : ρ}, encode row = encode row' → Keyed.key row = Keyed.key row'

instance : TellsKey UserRow := ⟨fun h => congrArg UserRow.uid (UserRow.encode_injective h)⟩
instance : TellsKey DeviceRow := ⟨fun h => (DeviceRow.mk.inj (DeviceRow.eq_of_encode h)).2.1⟩
instance : TellsKey StreamRow := ⟨fun h => congrArg StreamRow.uid (StreamRow.encode_injective h)⟩

theorem DeviceRow.userId_eq {row row' : DeviceRow} (h : encode row = encode row') :
    row.userId = row'.userId :=
  (DeviceRow.mk.inj (DeviceRow.eq_of_encode h)).2.2.1

theorem StreamRow.deviceId_eq {row row' : StreamRow} (h : encode row = encode row') :
    row.deviceId = row'.deviceId :=
  congrArg StreamRow.deviceId (StreamRow.encode_injective h)

namespace Shelf

variable {ρ : Type} [StoredRow ρ] [Keyed ρ] {rows : Table UInt64 Bytes} {index : Table String UInt64}
  {c : Table UInt64 ρ} {id : UInt64}

/-- What is stored is a row of the contents, up to what its stored form does not tell. -/
theorem of_stores (h : Shelf rows index c) {row : ρ} (stored : Stores rows id row) :
    ∃ row', c.get? id = some row' ∧ encode row' = encode row := by
  rw [Stores, h.stored, Option.map_eq_some_iff] at stored
  exact stored

theorem exists_row (h : Shelf rows index c) {b : Bytes} (stored : rows.get? id = some b) :
    ∃ row, c.get? id = some row ∧ encode row = b := by
  rw [h.stored, Option.map_eq_some_iff] at stored
  exact stored

theorem consistent (h : Shelf rows index c) {last : UInt64} (issued : IssuedBy last c)
    [TellsKey ρ] : ConsistentRows ρ rows index last where
  own id b stored := by
    obtain ⟨row, there, rfl⟩ := h.exists_row stored
    exact ⟨row, rfl, h.own id row there⟩
  inverse key id := by
    rw [h.found]
    constructor
    · rintro ⟨row, there, mine⟩
      exact ⟨row, h.get?_row there, mine⟩
    · rintro ⟨row, stored, rfl⟩
      obtain ⟨row', there, same⟩ := h.of_stores stored
      exact ⟨row', there, TellsKey.key_eq same⟩
  issued id b stored := by
    obtain ⟨row, there, -⟩ := h.exists_row stored
    exact issued id row there

end Shelf

theorem Linked.iff_stores {ρ : Type} [StoredRow ρ] [Keyed ρ] {owner : ρ → UInt64}
    (told : ∀ {row row' : ρ}, encode row = encode row' → owner row = owner row')
    {rows : Table UInt64 Bytes} {index : Table String UInt64} {links : Table Link Unit}
    {c : Table UInt64 ρ} (h : Linked owner links c) (shelf : Shelf rows index c) (link : Link) :
    links.get? link = some () ↔ ∃ row : ρ, Stores rows link.member row ∧ owner row = link.owner := by
  rcases link with ⟨o, m⟩
  rw [h.link]
  constructor
  · rintro ⟨row, there, mine⟩
    exact ⟨row, shelf.get?_row there, mine⟩
  · rintro ⟨row, stored, rfl⟩
    obtain ⟨row', there, same⟩ := shelf.of_stores stored
    exact ⟨row', there, told same⟩

theorem Tables.Holds.consistent {t : Tables} {c : Contents} (h : t.Holds c) : t.Consistent where
  users := h.lastUser ▸ h.users.consistent h.valid.users
  devices := h.lastDevice ▸ h.devices.consistent h.valid.devices
  streams := h.lastStream ▸ h.streams.consistent h.valid.streams
  userDevices := h.userDevices.iff_stores DeviceRow.userId_eq h.devices
  deviceStreams := h.deviceStreams.iff_stores StreamRow.deviceId_eq h.streams
  owner id row stored := by
    obtain ⟨row', there, same⟩ := h.devices.of_stores stored
    obtain ⟨user, owned⟩ := h.valid.owner id row' there
    rw [← DeviceRow.userId_eq same, h.users.get?_row owned, Option.isSome_some]
  device id row stored := by
    obtain ⟨row', there, same⟩ := h.streams.of_stores stored
    obtain ⟨device, owned⟩ := h.valid.device id row' there
    rw [← StreamRow.deviceId_eq same, h.devices.get?_row owned,
      Option.isSome_some]

end DeviceRegistry
