import DeviceRegistry.Proofs.Store.Changes
import DeviceRegistry.Proofs.Store.Consistency

/-! What goes from the tables with a device, and that nothing else goes. -/
namespace DeviceRegistry
open StoredRow

/-- `t'` has the entries of `t` that are not gone, and no others. -/
def Table.Sheds {κ ν : Type} [Ord κ] (t t' : Table κ ν) (gone : κ → ν → Prop) : Prop :=
  ∀ k v, t'.get? k = some v ↔ t.get? k = some v ∧ ¬ gone k v

/-- A device is gone, with its streams and with all that led to them. Its owner is gone as well if
that was the last one. -/
structure Tables.Sheds (device owner : UInt64) (last : Prop) (members : List UInt64)
    (t t' : Tables) : Prop where
  users : t.users.Sheds t'.users fun id _ => id = owner ∧ last
  usersByUid : t.usersByUid.Sheds t'.usersByUid fun _ id => id = owner ∧ last
  devices : t.devices.Sheds t'.devices fun id _ => id = device
  devicesByToken : t.devicesByToken.Sheds t'.devicesByToken fun _ id => id = device
  userDevices : t.userDevices.Sheds t'.userDevices fun link _ => link.member = device
  streams : t.streams.Sheds t'.streams fun id _ => id ∈ members
  streamsByUid : t.streamsByUid.Sheds t'.streamsByUid fun _ id => id ∈ members
  deviceStreams : t.deviceStreams.Sheds t'.deviceStreams fun link _ => link.member ∈ members
  sequences : t'.sequences = t.sequences
  metadata : t'.metadata = t.metadata

theorem Shelf.sheds {ρ : Type} [StoredRow ρ] [Keyed ρ] {rows rows' : Table UInt64 Bytes}
    {index index' : Table String UInt64} {c c' : Table UInt64 ρ} {gone : UInt64 → Prop}
    (h : Shelf rows index c) (h' : Shelf rows' index' c') (sheds : c.Sheds c' fun id _ => gone id) :
    (rows.Sheds rows' fun id _ => gone id) ∧ index.Sheds index' fun _ id => gone id := by
  constructor
  · intro id b
    simp only [h.stored, h'.stored, Option.map_eq_some_iff]
    constructor
    · rintro ⟨row, there, rfl⟩
      obtain ⟨there, kept⟩ := (sheds id row).1 there
      exact ⟨⟨row, there, rfl⟩, kept⟩
    · rintro ⟨⟨row, there, rfl⟩, kept⟩
      exact ⟨row, (sheds id row).2 ⟨there, kept⟩, rfl⟩
  · intro key id
    simp only [h.found, h'.found]
    constructor
    · rintro ⟨row, there, mine⟩
      obtain ⟨there, kept⟩ := (sheds id row).1 there
      exact ⟨⟨row, there, mine⟩, kept⟩
    · rintro ⟨⟨row, there, mine⟩, kept⟩
      exact ⟨row, (sheds id row).2 ⟨there, kept⟩, mine⟩

theorem Linked.sheds {ρ : Type} {owner : ρ → UInt64} {links links' : Table Link Unit}
    {c c' : Table UInt64 ρ} {gone : UInt64 → Prop} (h : Linked owner links c)
    (h' : Linked owner links' c') (sheds : c.Sheds c' fun id _ => gone id) :
    links.Sheds links' fun link _ => gone link.member := by
  rintro ⟨o, m⟩ ⟨⟩
  rw [h.link, h'.link]
  constructor
  · rintro ⟨row, there, mine⟩
    obtain ⟨there, kept⟩ := (sheds m row).1 there
    exact ⟨⟨row, there, mine⟩, kept⟩
  · rintro ⟨⟨row, there, mine⟩, kept⟩
    exact ⟨row, (sheds m row).2 ⟨there, kept⟩, mine⟩

namespace Contents.Removed

variable {c c' : Contents} {id owner : UInt64}

theorem sheds_devices (h : c.Removed id owner c') :
    c.devices.Sheds c'.devices fun other _ => other = id := by
  intro other row
  by_cases same : other = id
  · rw [same, h.devices_gone]
    simp
  · rw [h.devices_get? same]
    simp [same]

theorem sheds_users (h : c.Removed id owner c') :
    c.users.Sheds c'.users fun other _ => other = owner ∧ (c.withoutDevice id).Alone owner := by
  intro other row
  cases h with
  | shared more =>
    have kept : ¬ (other = owner ∧ (c.withoutDevice id).Alone owner) := fun gone => more gone.2
    exact (and_iff_left kept).symm
  | last alone =>
    by_cases same : other = owner
    · rw [same, withoutUser, Table.get?_erase_self]
      simp [alone]
    · rw [withoutUser, Table.get?_erase_ne _ same]
      simp [same, withoutDevice]

theorem sheds_streams (h : c.Removed id owner c') {streams : List StreamRow}
    (all : c.StreamsOf id streams) (own : ∀ id row, c.streams.get? id = some row → row.id = id) :
    c.streams.Sheds c'.streams fun other _ => other ∈ streams.map StreamRow.id := by
  intro other row
  -- The streams of the device are those of which the ids are listed.
  have listed : c.streams.get? other = some row →
      (other ∈ streams.map StreamRow.id ↔ row.deviceId = id) := by
    intro there
    rw [List.mem_map]
    constructor
    · rintro ⟨row', member, rfl⟩
      obtain ⟨there', mine⟩ := (all.mem row').1 member
      rw [there] at there'
      exact Option.some.inj there' ▸ mine
    · intro mine
      have same := own other row there
      exact ⟨row, (all.mem row).2 ⟨same.symm ▸ there, mine⟩, same⟩
  constructor
  · intro kept
    have there := h.old_stream kept
    refine ⟨there, (listed there).not.2 ?_⟩
    have rest : (c.withoutDevice id).streams.get? other = some row := by
      cases h <;> exact kept
    rw [withoutDevice, Table.get?_filter, Option.filter_eq_some_iff, bne_iff_ne] at rest
    exact rest.2
  · rintro ⟨there, others⟩
    exact h.streams_get? there ((listed there).not.1 others)

/-- The tables of the contents without a device. -/
theorem sheds (h : c.Removed id owner c') {t t' : Tables} (held : t.Holds c) (held' : t'.Holds c')
    {streams : List StreamRow} (all : c.StreamsOf id streams)
    (sequences : t'.sequences = t.sequences) (metadata : t'.metadata = t.metadata) :
    Tables.Sheds id owner ((c.withoutDevice id).Alone owner) (streams.map StreamRow.id) t t' := by
  obtain ⟨users, usersByUid⟩ := held.users.sheds held'.users h.sheds_users
  obtain ⟨devices, devicesByToken⟩ := held.devices.sheds held'.devices h.sheds_devices
  have streamsOf := h.sheds_streams all held.streams.own
  obtain ⟨streams, streamsByUid⟩ := held.streams.sheds held'.streams streamsOf
  exact {
    users
    usersByUid
    devices
    devicesByToken
    userDevices := held.userDevices.sheds held'.userDevices h.sheds_devices
    streams
    streamsByUid
    deviceStreams := held.deviceStreams.sheds held'.deviceStreams streamsOf
    sequences
    metadata }

end Contents.Removed

/-- The device that a token and a public key give access to, by what is stored. -/
structure Tables.Grants (t : Tables) (token publicKey : String) (id : UInt64) (device : DeviceRow)
    (owner : UserRow) : Prop where
  there : Stores t.devices id device
  token : device.token = token
  owned : Stores t.users device.userId owner
  key : owner.publicKey = publicKey

/-- The streams that are stored for a device, in the order of their ids. -/
structure Tables.StreamsOf (t : Tables) (device : UInt64) (streams : List StreamRow) : Prop where
  mem : ∀ row, row ∈ streams ↔ Stores t.streams row.id row ∧ row.deviceId = device
  ascending : (streams.map StreamRow.id).Pairwise (· < ·)

/-- The owner has no device but that one. -/
def Tables.IsLast (t : Tables) (device owner : UInt64) : Prop :=
  ∀ id (row : DeviceRow), Stores t.devices id row → row.userId = owner → id = device

namespace Tables.Holds

variable {t : Tables} {c : Contents} {token publicKey : String} {id : UInt64}

theorem stores_user (h : t.Holds c) {row : UserRow} :
    Stores t.users id row ↔ c.users.get? id = some row := by
  constructor
  · intro stored
    obtain ⟨row', there, same⟩ := h.users.of_stores stored
    exact UserRow.encode_injective same ▸ there
  · exact h.users.get?_row

theorem stores_stream (h : t.Holds c) {row : StreamRow} :
    Stores t.streams id row ↔ c.streams.get? id = some row := by
  constructor
  · intro stored
    obtain ⟨row', there, same⟩ := h.streams.of_stores stored
    exact StreamRow.encode_injective same ▸ there
  · exact h.streams.get?_row

theorem stores_device (h : t.Holds c)
    (finite : ∀ id row, c.devices.get? id = some row → row.IsFinite) {row : DeviceRow} :
    Stores t.devices id row ↔ c.devices.get? id = some row := by
  constructor
  · intro stored
    obtain ⟨row', there, same⟩ := h.devices.of_stores stored
    rw [DeviceRow.eq_of_encode_finite (finite id row' there) same.symm]
    exact there
  · exact h.devices.get?_row

theorem grants_iff (h : t.Holds c)
    (finite : ∀ id row, c.devices.get? id = some row → row.IsFinite) {device : DeviceRow}
    {owner : UserRow} :
    t.Grants token publicKey id device owner ↔ c.Grants token publicKey id device owner := by
  constructor
  · rintro ⟨stored, mine, storedOwner, key⟩
    have there := (h.stores_device finite).1 stored
    exact ⟨there, mine, finite id device there, h.stores_user.1 storedOwner, key⟩
  · rintro ⟨there, mine, -, owned, key⟩
    exact ⟨h.devices.get?_row there, mine, h.users.get?_row owned, key⟩

theorem streamsOf_iff (h : t.Holds c) {device : UInt64} {streams : List StreamRow} :
    t.StreamsOf device streams ↔ c.StreamsOf device streams := by
  constructor
  · rintro ⟨mem, ascending⟩
    simp only [h.stores_stream] at mem
    exact ⟨mem, ascending⟩
  · rintro ⟨mem, ascending⟩
    simp only [← h.stores_stream] at mem
    exact ⟨mem, ascending⟩

theorem isLast_iff (h : t.Holds c)
    (finite : ∀ id row, c.devices.get? id = some row → row.IsFinite) {device owner : UInt64} :
    t.IsLast device owner ↔ (c.withoutDevice device).Alone owner := by
  simp only [IsLast, h.stores_device finite]
  constructor
  · intro last id row there mine
    rw [Contents.withoutDevice] at there
    by_cases same : id = device
    · rw [same, Table.get?_erase_self] at there
      contradiction
    · rw [Table.get?_erase_ne _ same] at there
      exact same (last id row there mine)
  · intro alone id row there mine
    by_contra other
    apply alone id row _ mine
    rwa [Contents.withoutDevice, Table.get?_erase_ne _ other]

end Tables.Holds

/-- A token and a public key give access to one device at most. -/
theorem Tables.Grants.unique {t : Tables} {c : Contents} {token publicKey : String} {id id' : UInt64}
    {device device' : DeviceRow} {owner owner' : UserRow}
    (h : t.Grants token publicKey id device owner) (held : t.Holds c)
    (finite : ∀ id row, c.devices.get? id = some row → row.IsFinite)
    (h' : t.Grants token publicKey id' device' owner') : id' = id ∧ device' = device := by
  have granted := (held.grants_iff finite).1 h
  have granted' := (held.grants_iff finite).1 h'
  obtain rfl := granted'.unique held granted
  exact ⟨rfl, Option.some.inj (granted'.there.symm.trans granted.there)⟩

/-- The device with a token has one owner, whose key is the only one that gives access. -/
theorem Tables.Grants.same_key {t : Tables} {c : Contents} {token publicKey publicKey' : String}
    {id id' : UInt64} {device device' : DeviceRow} {owner owner' : UserRow}
    (h : t.Grants token publicKey id device owner) (held : t.Holds c)
    (finite : ∀ id row, c.devices.get? id = some row → row.IsFinite)
    (h' : t.Grants token publicKey' id' device' owner') : publicKey' = publicKey := by
  have granted := (held.grants_iff finite).1 h
  have granted' := (held.grants_iff finite).1 h'
  obtain rfl := held.devices.id_eq granted.there granted'.there
    (granted.token.trans granted'.token.symm)
  obtain rfl := Option.some.inj (granted.there.symm.trans granted'.there)
  obtain rfl := Option.some.inj (granted.owned.symm.trans granted'.owned)
  exact granted'.key.symm.trans granted.key

end DeviceRegistry
