import DeviceRegistry.Proofs.Store.Issue
import DeviceRegistry.Proofs.Store.Shelf
import DeviceRegistry.Store.Transaction

/-! What the tables of a store hold: users, devices and streams, and the last ids that were issued
for them. -/
namespace DeviceRegistry
open StoredRow

/-- What a store is about: its rows, and the last ids that were issued. -/
structure Contents where
  users : Table UInt64 UserRow := .empty
  devices : Table UInt64 DeviceRow := .empty
  streams : Table UInt64 StreamRow := .empty
  lastUser : UInt64 := 0
  lastDevice : UInt64 := 0
  lastStream : UInt64 := 0

/-- The ids were issued, and what a row refers to is there. -/
structure Contents.Valid (c : Contents) : Prop where
  users : IssuedBy c.lastUser c.users
  devices : IssuedBy c.lastDevice c.devices
  streams : IssuedBy c.lastStream c.streams
  owner : ∀ id row, c.devices.get? id = some row → ∃ user, c.users.get? row.userId = some user
  device : ∀ id row, c.streams.get? id = some row → ∃ device, c.devices.get? row.deviceId = some device

namespace Contents

def withUser (c : Contents) (row : UserRow) : Contents :=
  { c with users := c.users.insert row.id row, lastUser := row.id }

def withDevice (c : Contents) (row : DeviceRow) : Contents :=
  { c with devices := c.devices.insert row.id row, lastDevice := row.id }

def withStream (c : Contents) (row : StreamRow) : Contents :=
  { c with streams := c.streams.insert row.id row, lastStream := row.id }

def withoutUser (c : Contents) (id : UInt64) : Contents := { c with users := c.users.erase id }

/-- The streams of a device, each of them once, in the order of their ids. -/
structure StreamsOf (c : Contents) (device : UInt64) (rows : List StreamRow) : Prop where
  mem : ∀ row, row ∈ rows ↔ c.streams.get? row.id = some row ∧ row.deviceId = device
  ascending : (rows.map StreamRow.id).Pairwise (· < ·)

theorem StreamsOf.distinct {c : Contents} {device : UInt64} {rows : List StreamRow}
    (h : c.StreamsOf device rows) : (rows.map StreamRow.id).Nodup :=
  h.ascending.imp UInt64.ne_of_lt

def withoutDevice (c : Contents) (id : UInt64) : Contents :=
  { c with
    devices := c.devices.erase id
    streams := c.streams.filter fun row => row.deviceId != id }

/-- The rows are the same; the sequences need not be. -/
structure SameRows (c c' : Contents) : Prop where
  users : c.users = c'.users
  devices : c.devices = c'.devices
  streams : c.streams = c'.streams

namespace Valid

variable {c : Contents}

theorem withUser (h : c.Valid) (room : Room c.lastUser) {row : UserRow}
    (next : row.id = c.lastUser + 1) : (c.withUser row).Valid where
  users := by
    rw [Contents.withUser, next]
    exact h.users.insert room
  devices := h.devices
  streams := h.streams
  owner id device there := by
    obtain ⟨user, known⟩ := h.owner id device there
    by_cases same : device.userId = row.id
    · exact ⟨row, by rw [Contents.withUser, same, Table.get?_insert_self]⟩
    · exact ⟨user, by rw [Contents.withUser, Table.get?_insert_ne _ _ same, known]⟩
  device := h.device

theorem withDevice (h : c.Valid) (room : Room c.lastDevice) {row : DeviceRow}
    (next : row.id = c.lastDevice + 1) {user : UserRow}
    (known : c.users.get? row.userId = some user) : (c.withDevice row).Valid where
  users := h.users
  devices := by
    rw [Contents.withDevice, next]
    exact h.devices.insert room
  streams := h.streams
  owner id device there := by
    rw [Contents.withDevice] at there
    by_cases same : id = row.id
    · rw [same, Table.get?_insert_self] at there
      exact ⟨user, Option.some.inj there ▸ known⟩
    · rw [Table.get?_insert_ne _ _ same] at there
      exact h.owner id device there
  device id stream there := by
    obtain ⟨device, known⟩ := h.device id stream there
    by_cases same : stream.deviceId = row.id
    · exact ⟨row, by rw [Contents.withDevice, same, Table.get?_insert_self]⟩
    · exact ⟨device, by rw [Contents.withDevice, Table.get?_insert_ne _ _ same, known]⟩

theorem withStream (h : c.Valid) (room : Room c.lastStream) {row : StreamRow}
    (next : row.id = c.lastStream + 1) {device : DeviceRow}
    (known : c.devices.get? row.deviceId = some device) : (c.withStream row).Valid where
  users := h.users
  devices := h.devices
  streams := by
    rw [Contents.withStream, next]
    exact h.streams.insert room
  owner := h.owner
  device id stream there := by
    rw [Contents.withStream] at there
    by_cases same : id = row.id
    · rw [same, Table.get?_insert_self] at there
      exact ⟨device, Option.some.inj there ▸ known⟩
    · rw [Table.get?_insert_ne _ _ same] at there
      exact h.device id stream there

theorem withoutDevice (h : c.Valid) (id : UInt64) : (c.withoutDevice id).Valid where
  users := h.users
  devices := h.devices.erase
  streams := h.streams.filter _
  owner other row there := by
    rw [Contents.withoutDevice] at there
    by_cases same : other = id
    · rw [same, Table.get?_erase_self] at there
      contradiction
    · rw [Table.get?_erase_ne _ same] at there
      exact h.owner other row there
  device other row there := by
    simp only [Contents.withoutDevice, Table.get?_filter, Option.filter_eq_some_iff, bne_iff_ne]
      at there ⊢
    rw [Table.get?_erase_ne _ there.2]
    exact h.device other row there.1

theorem withoutUser (h : c.Valid) {id : UInt64}
    (alone : ∀ device row, c.devices.get? device = some row → row.userId ≠ id) :
    (c.withoutUser id).Valid where
  users := h.users.erase
  devices := h.devices
  streams := h.streams
  owner device row there := by
    rw [Contents.withoutUser, Table.get?_erase_ne _ (alone device row there)]
    exact h.owner device row there
  device := h.device

end Valid
end Contents

/-- The tables hold the contents, and nothing else. -/
structure Tables.Holds (t : Tables) (c : Contents) : Prop where
  valid : c.Valid
  users : Shelf t.users t.usersByUid c.users
  devices : Shelf t.devices t.devicesByToken c.devices
  streams : Shelf t.streams t.streamsByUid c.streams
  userDevices : Linked DeviceRow.userId t.userDevices c.devices
  deviceStreams : Linked StreamRow.deviceId t.deviceStreams c.streams
  lastUser : t.issued "users" = c.lastUser
  lastDevice : t.issued "devices" = c.lastDevice
  lastStream : t.issued "streams" = c.lastStream

namespace Tables

/-- The tables have the same records: rows, indexes and relations. Sequences and metadata may
differ. -/
structure SameRecords (t t' : Tables) : Prop where
  users : t.users = t'.users
  usersByUid : t.usersByUid = t'.usersByUid
  devices : t.devices = t'.devices
  devicesByToken : t.devicesByToken = t'.devicesByToken
  userDevices : t.userDevices = t'.userDevices
  streams : t.streams = t'.streams
  streamsByUid : t.streamsByUid = t'.streamsByUid
  deviceStreams : t.deviceStreams = t'.deviceStreams

theorem SameRecords.refl (t : Tables) : t.SameRecords t := ⟨rfl, rfl, rfl, rfl, rfl, rfl, rfl, rfl⟩

/-- Records and metadata are all but the sequences. -/
theorem SameRecords.eq {t t' : Tables} (h : t.SameRecords t') (metadata : t.metadata = t'.metadata) :
    t = { t' with sequences := t.sequences } := by
  obtain ⟨users, usersByUid, devices, devicesByToken, userDevices, streams, streamsByUid,
    deviceStreams⟩ := h
  cases t
  cases t'
  simp_all

def withUser (t : Tables) (row : UserRow) : Tables :=
  { t with
    sequences := t.sequences.insert "users" row.id
    users := withRow t.users row.id row
    usersByUid := t.usersByUid.insert row.uid row.id }

def withDevice (t : Tables) (row : DeviceRow) : Tables :=
  { t with
    sequences := t.sequences.insert "devices" row.id
    devices := withRow t.devices row.id row
    devicesByToken := t.devicesByToken.insert row.token row.id
    userDevices := t.userDevices.insert ⟨row.userId, row.id⟩ () }

def withStream (t : Tables) (row : StreamRow) : Tables :=
  { t with
    sequences := t.sequences.insert "streams" row.id
    streams := withRow t.streams row.id row
    streamsByUid := t.streamsByUid.insert row.uid row.id
    deviceStreams := t.deviceStreams.insert ⟨row.deviceId, row.id⟩ () }

def withoutUser (t : Tables) (id : UInt64) (row : UserRow) : Tables :=
  { t with
    users := t.users.erase id
    usersByUid := t.usersByUid.erase row.uid }

def withoutDevice (t : Tables) (id : UInt64) (row : DeviceRow) (streams : List StreamRow) :
    Tables :=
  let t := streams.foldl (fun t s => Transaction.withoutStream t s id) t
  { t with
    devices := t.devices.erase id
    devicesByToken := t.devicesByToken.erase row.token
    userDevices := t.userDevices.erase ⟨row.userId, id⟩ }

theorem issued_withUser (t : Tables) (row : UserRow) (sequence : String) :
    (t.withUser row).issued sequence = if sequence = "users" then row.id else t.issued sequence :=
  issued_insert t ..

theorem issued_withDevice (t : Tables) (row : DeviceRow) (sequence : String) :
    (t.withDevice row).issued sequence =
      if sequence = "devices" then row.id else t.issued sequence :=
  issued_insert t ..

theorem issued_withStream (t : Tables) (row : StreamRow) (sequence : String) :
    (t.withStream row).issued sequence =
      if sequence = "streams" then row.id else t.issued sequence :=
  issued_insert t ..

/-- Erasing streams of a device leaves the other tables alone. -/
theorem foldl_withoutStream (gone : List StreamRow) (t : Tables) (device : UInt64) :
    gone.foldl (fun t row => Transaction.withoutStream t row device) t =
      { t with
        streams := gone.foldl (fun t row => t.erase row.id) t.streams
        streamsByUid := gone.foldl (fun t row => t.erase row.uid) t.streamsByUid
        deviceStreams := gone.foldl (fun t row => t.erase ⟨device, row.id⟩) t.deviceStreams } := by
  induction gone generalizing t with
  | nil => rfl
  | cons row gone ih => exact ih _

theorem rest_withoutDevice (t : Tables) (id : UInt64) (row : DeviceRow) (streams : List StreamRow) :
    (t.withoutDevice id row streams).sequences = t.sequences ∧
      (t.withoutDevice id row streams).metadata = t.metadata := by
  rw [withoutDevice, foldl_withoutStream]
  exact ⟨rfl, rfl⟩

theorem issued_withoutDevice (t : Tables) (id : UInt64) (row : DeviceRow)
    (streams : List StreamRow) (sequence : String) :
    (t.withoutDevice id row streams).issued sequence = t.issued sequence :=
  issued_congr (t.rest_withoutDevice id row streams).1 sequence

namespace Holds

variable {t t' : Tables} {c c' : Contents}

/-- The rows determine all the tables but the sequences and the metadata. -/
theorem sameRecords (h : t.Holds c) (h' : t'.Holds c') (same : c.SameRows c') :
    t.SameRecords t' := by
  have users := h'.users
  have devices := h'.devices
  have streams := h'.streams
  have userDevices := h'.userDevices
  have deviceStreams := h'.deviceStreams
  rw [← same.users] at users
  rw [← same.devices] at devices userDevices
  rw [← same.streams] at streams deviceStreams
  exact {
    users := (h.users.unique users).1
    usersByUid := (h.users.unique users).2
    devices := (h.devices.unique devices).1
    devicesByToken := (h.devices.unique devices).2
    userDevices := h.userDevices.unique userDevices
    streams := (h.streams.unique streams).1
    streamsByUid := (h.streams.unique streams).2
    deviceStreams := h.deviceStreams.unique deviceStreams }

theorem empty : ({} : Tables).Holds {} where
  valid := ⟨nofun, nofun, nofun, nofun, nofun⟩
  users := ⟨fun _ => rfl, nofun, fun _ _ => ⟨nofun, nofun⟩⟩
  devices := ⟨fun _ => rfl, nofun, fun _ _ => ⟨nofun, nofun⟩⟩
  streams := ⟨fun _ => rfl, nofun, fun _ _ => ⟨nofun, nofun⟩⟩
  userDevices := ⟨fun _ _ => ⟨nofun, nofun⟩⟩
  deviceStreams := ⟨fun _ _ => ⟨nofun, nofun⟩⟩
  lastUser := rfl
  lastDevice := rfl
  lastStream := rfl

theorem skipUser (h : t.Holds c) (room : Room c.lastUser) :
    (t.skip "users").Holds { c with lastUser := c.lastUser + 1 } where
  valid := { h.valid with users := h.valid.users.mono (IssuedBy.le_next room) }
  users := h.users
  devices := h.devices
  streams := h.streams
  userDevices := h.userDevices
  deviceStreams := h.deviceStreams
  lastUser := by rw [issued_skip, if_pos rfl, h.lastUser]
  lastDevice := by rw [issued_skip, if_neg (by decide), h.lastDevice]
  lastStream := by rw [issued_skip, if_neg (by decide), h.lastStream]

theorem skipDevice (h : t.Holds c) (room : Room c.lastDevice) :
    (t.skip "devices").Holds { c with lastDevice := c.lastDevice + 1 } where
  valid := { h.valid with devices := h.valid.devices.mono (IssuedBy.le_next room) }
  users := h.users
  devices := h.devices
  streams := h.streams
  userDevices := h.userDevices
  deviceStreams := h.deviceStreams
  lastUser := by rw [issued_skip, if_neg (by decide), h.lastUser]
  lastDevice := by rw [issued_skip, if_pos rfl, h.lastDevice]
  lastStream := by rw [issued_skip, if_neg (by decide), h.lastStream]

theorem withUser (h : t.Holds c) (room : Room c.lastUser) {row : UserRow}
    (next : row.id = c.lastUser + 1) (new : t.usersByUid.get? row.uid = none) :
    (t.withUser row).Holds (c.withUser row) where
  valid := h.valid.withUser room next
  users := h.users.insert (show c.users.get? row.id = none from next ▸ h.valid.users.fresh room) new
  devices := h.devices
  streams := h.streams
  userDevices := h.userDevices
  deviceStreams := h.deviceStreams
  lastUser := (issued_withUser ..).trans (if_pos rfl)
  lastDevice := ((issued_withUser ..).trans (if_neg (by decide))).trans h.lastDevice
  lastStream := ((issued_withUser ..).trans (if_neg (by decide))).trans h.lastStream

theorem withDevice (h : t.Holds c) (room : Room c.lastDevice) {row : DeviceRow}
    (next : row.id = c.lastDevice + 1) (new : t.devicesByToken.get? row.token = none)
    {user : UserRow} (known : c.users.get? row.userId = some user) :
    (t.withDevice row).Holds (c.withDevice row) := by
  have fresh : c.devices.get? row.id = none := next ▸ h.valid.devices.fresh room
  exact {
    valid := h.valid.withDevice room next known
    users := h.users
    devices := h.devices.insert fresh new
    streams := h.streams
    userDevices := h.userDevices.insert fresh
    deviceStreams := h.deviceStreams
    lastUser := ((issued_withDevice ..).trans (if_neg (by decide))).trans h.lastUser
    lastDevice := (issued_withDevice ..).trans (if_pos rfl)
    lastStream := ((issued_withDevice ..).trans (if_neg (by decide))).trans h.lastStream }

theorem withStream (h : t.Holds c) (room : Room c.lastStream) {row : StreamRow}
    (next : row.id = c.lastStream + 1) (new : t.streamsByUid.get? row.uid = none)
    {device : DeviceRow} (known : c.devices.get? row.deviceId = some device) :
    (t.withStream row).Holds (c.withStream row) := by
  have fresh : c.streams.get? row.id = none := next ▸ h.valid.streams.fresh room
  exact {
    valid := h.valid.withStream room next known
    users := h.users
    devices := h.devices
    streams := h.streams.insert fresh new
    userDevices := h.userDevices
    deviceStreams := h.deviceStreams.insert fresh
    lastUser := ((issued_withStream ..).trans (if_neg (by decide))).trans h.lastUser
    lastDevice := ((issued_withStream ..).trans (if_neg (by decide))).trans h.lastDevice
    lastStream := (issued_withStream ..).trans (if_pos rfl) }

theorem withoutUser (h : t.Holds c) {id : UInt64} {row : UserRow}
    (there : c.users.get? id = some row)
    (alone : ∀ device row, c.devices.get? device = some row → row.userId ≠ id) :
    (t.withoutUser id row).Holds (c.withoutUser id) :=
  { h with
    valid := h.valid.withoutUser alone
    users := h.users.erase there }

theorem erase_streams (h : t.Holds c) {device : UInt64} {gone : List StreamRow}
    (all : c.StreamsOf device gone) :
    gone.foldl (fun t row => t.erase row.id) c.streams =
      c.streams.filter fun row => row.deviceId != device := by
  apply Table.ext_get?
  intro id
  apply Option.ext
  intro row
  rw [Table.get?_foldl_erase, Table.get?_filter, Option.filter_eq_some_iff, bne_iff_ne]
  apply and_congr_right
  intro there
  obtain rfl : row.id = id := h.streams.own id row there
  constructor
  · intro kept mine
    exact kept row ((all.mem row).2 ⟨there, mine⟩) rfl
  · intro other row' hr same
    have := (all.mem row').1 hr
    rw [same, there] at this
    exact other (Option.some.inj this.1 ▸ this.2)

theorem withoutDevice (h : t.Holds c) {id : UInt64} {row : DeviceRow}
    (there : c.devices.get? id = some row) {gone : List StreamRow} (all : c.StreamsOf id gone) :
    (t.withoutDevice id row gone).Holds (c.withoutDevice id) := by
  rw [Tables.withoutDevice, foldl_withoutStream]
  have rest := h.erase_streams all
  exact {
    valid := h.valid.withoutDevice id
    users := h.users
    devices := h.devices.erase there
    streams := by
      rw [Contents.withoutDevice, ← rest]
      exact h.streams.eraseAll (fun row hr => ((all.mem row).1 hr).1) all.distinct
    userDevices := h.userDevices.erase there
    deviceStreams := by
      rw [Contents.withoutDevice, ← rest]
      exact h.deviceStreams.eraseAll (fun row hr => (all.mem row).1 hr) all.distinct
    lastUser := h.lastUser
    lastDevice := h.lastDevice
    lastStream := h.lastStream }

end Holds
end Tables
end DeviceRegistry
