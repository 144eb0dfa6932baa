import DeviceRegistry.Proofs.Store.Registry
import DeviceRegistry.Proofs.Store.Removal

/-! Tables depict a registry: their contents are its rows with the keys sealed. What is looked up in
an index or in a relation is then what the registry finds by looking at all of its rows. -/
namespace DeviceRegistry
open StoredRow

structure UserRow.Shows (cipher : ColumnCipher) (row : UserRow) (user : User) : Prop where
  id : row.id = user.id
  uid : row.uid = user.uid
  publicKey : row.publicKey = user.keys.publicKey
  opens : cipher.decryptText Transaction.userKeyColumn row.privateKey = .ok user.keys.privateKey

structure DeviceRow.Shows (cipher : ColumnCipher) (row : DeviceRow) (device : Device) : Prop where
  fields : row = device.toNewDevice.row device.id row.privateKey
  opens : cipher.decryptText Transaction.deviceKeyColumn row.privateKey = .ok device.keys.privateKey

/-- The contents are the rows of a registry, with their keys sealed. -/
structure Contents.Shows (cipher : ColumnCipher) (c : Contents) (m : Registry) : Prop where
  users : Table.Shows (UserRow.Shows cipher) c.users m.users
  devices : Table.Shows (DeviceRow.Shows cipher) c.devices m.devices
  streams : c.streams = m.streams
  lastUser : c.lastUser = m.lastUser
  lastDevice : c.lastDevice = m.lastDevice
  lastStream : c.lastStream = m.lastStream

/-- The tables are those of a registry. They hold its rows in their stored form with the indexes of
tokens and uids, the relations between the rows, and the last ids. -/
def Tables.Depicts (cipher : ColumnCipher) (t : Tables) (m : Registry) : Prop :=
  ∃ c, t.Holds c ∧ c.Shows cipher m

section
variable {cipher : ColumnCipher}

theorem UserRow.Shows.unique {row : UserRow} {user user' : User} (h : row.Shows cipher user)
    (h' : row.Shows cipher user') : user = user' := by
  obtain ⟨id, uid, ⟨privateKey, publicKey⟩⟩ := user
  obtain ⟨id', uid', ⟨privateKey', publicKey'⟩⟩ := user'
  obtain rfl := h.id.symm.trans h'.id
  obtain rfl := h.uid.symm.trans h'.uid
  obtain rfl := h.publicKey.symm.trans h'.publicKey
  obtain rfl := Except.ok.inj (h.opens.symm.trans h'.opens)
  rfl

theorem DeviceRow.Shows.id {row : DeviceRow} {device : Device} (h : row.Shows cipher device) :
    row.id = device.id := by
  rw [h.fields]
  rfl

theorem DeviceRow.Shows.token {row : DeviceRow} {device : Device} (h : row.Shows cipher device) :
    row.token = device.token := by
  rw [h.fields]
  rfl

theorem DeviceRow.Shows.userId {row : DeviceRow} {device : Device} (h : row.Shows cipher device) :
    row.userId = device.userId := by
  rw [h.fields]
  rfl

theorem Contents.Shows.streams' {c : Contents} {m : Registry} (h : c.Shows cipher m) :
    Table.Shows Eq c.streams m.streams := by
  intro id
  rw [h.streams]
  cases m.streams.get? id with
  | none => exact .none
  | some row => exact .some rfl

theorem Contents.shows_empty : ({} : Contents).Shows cipher {} :=
  ⟨.empty, .empty, rfl, rfl, rfl, rfl⟩

end

namespace Shelf

variable {ρ β : Type} [StoredRow ρ] [Keyed ρ] {r : ρ → β → Prop} {key : β → String}
  {rows : Table UInt64 Bytes} {index : Table String UInt64} {c : Table UInt64 ρ} {u : Table UInt64 β}
  {k : String}

/-- What is not in the index of a unique column is in none of the rows. -/
theorem find?_none (h : Shelf rows index c) (shows : Table.Shows r c u)
    (same : ∀ row b, r row b → Keyed.key row = key b) (new : index.get? k = none) :
    u.rows.find? (fun b => key b == k) = none := by
  rw [List.find?_eq_none]
  intro b listed mine
  obtain ⟨id, there⟩ := Table.mem_rows.1 listed
  obtain ⟨row, filed, related⟩ := shows.of_right there
  exact h.new_of_index new filed ((same row b related).trans (beq_iff_eq.1 mine))

/-- What the index of a unique column leads to is what the rows have. -/
theorem find?_some (h : Shelf rows index c) (shows : Table.Shows r c u)
    (same : ∀ row b, r row b → Keyed.key row = key b) {id : UInt64} {row : ρ}
    (there : c.get? id = some row) (mine : Keyed.key row = k) :
    ∃ b, u.rows.find? (fun b => key b == k) = some b ∧ u.get? id = some b ∧ r row b := by
  obtain ⟨b, shown, related⟩ := shows.of_left there
  cases found : u.rows.find? (fun b => key b == k) with
  | none =>
    have other := List.find?_eq_none.1 found b (Table.mem_rows.2 ⟨id, shown⟩)
    rw [beq_iff_eq, ← same row b related] at other
    exact absurd mine other
  | some b' =>
    obtain ⟨id', there'⟩ := Table.mem_rows.1 (List.mem_of_find?_eq_some found)
    obtain ⟨row', filed, related'⟩ := shows.of_right there'
    have matches_ := List.find?_some found
    have mine' : Keyed.key row' = k := (same row' b' related').trans (beq_iff_eq.1 matches_)
    obtain rfl : id = id' := h.id_eq there filed (mine.trans mine'.symm)
    rw [shown] at there'
    exact ⟨b, there' ▸ rfl, shown, related⟩

end Shelf

/-- Streams in the order of their ids are determined by what they are. -/
theorem Contents.StreamsOf.unique {c : Contents} {device : UInt64} {streams streams' : List StreamRow}
    (h : c.StreamsOf device streams) (h' : c.StreamsOf device streams') : streams = streams' := by
  have nodup {rows : List StreamRow} (h : c.StreamsOf device rows) : rows.Nodup := by
    refine (List.pairwise_map.1 h.ascending).imp ?_
    rintro row _ below rfl
    exact UInt64.lt_irrefl _ below
  have perm : streams.Perm streams' := by
    refine (List.perm_ext_iff_of_nodup (nodup h) (nodup h')).2 ?_
    intro row
    rw [h.mem, h'.mem]
  refine perm.eq_of_pairwise ?_ (List.pairwise_map.1 h.ascending) (List.pairwise_map.1 h'.ascending)
  intro a b _ _ below above
  exact absurd above (UInt64.lt_asymm below)

theorem Table.ascending_rows {β : Type} (u : Table UInt64 β) (id : β → UInt64)
    (own : ∀ k b, u.get? k = some b → id b = k) : (u.rows.map id).Pairwise (· < ·) := by
  rw [List.pairwise_map, rows, List.pairwise_map]
  refine u.ascending.imp_of_mem ?_
  rintro ⟨k, b⟩ ⟨k', b'⟩ listed listed' below
  rw [own k b (get?_eq_some_iff.2 listed), own k' b' (get?_eq_some_iff.2 listed')]
  exact compareOfLessAndEq_eq_lt.1 below

namespace Contents.Shows

variable {cipher : ColumnCipher} {t : Tables} {c : Contents} {m : Registry}

theorem streamsOf (h : c.Shows cipher m) (held : t.Holds c) (device : UInt64) :
    c.StreamsOf device (m.streamsOf device) where
  mem row := by
    rw [Registry.streamsOf, Table.mem_rows, ← h.streams]
    simp only [Table.get?_filter, Option.filter_eq_some_iff, beq_iff_eq]
    constructor
    · rintro ⟨id, there, mine⟩
      obtain rfl : row.id = id := held.streams.own id row there
      exact ⟨there, mine⟩
    · rintro ⟨there, mine⟩
      exact ⟨row.id, there, mine⟩
  ascending := by
    apply Table.ascending_rows
    intro id row there
    rw [Table.get?_filter, Option.filter_eq_some_iff, ← h.streams] at there
    exact held.streams.own id row there.1

/-- The devices of a user are as many as the relation lists. -/
theorem length_devicesOf (h : c.Shows cipher m) (held : t.Holds c) (user : UInt64) :
    (Tables.members t.userDevices user).length = (m.devicesOf user).length := by
  have own : ∀ id device, (m.devices.filter fun d => d.userId == user).get? id = some device →
      device.id = id := by
    intro id device there
    rw [Table.get?_filter, Option.filter_eq_some_iff] at there
    obtain ⟨row, filed, shown⟩ := h.devices.of_right there.1
    exact shown.id.symm.trans (held.devices.own id row filed)
  have perm : (Tables.members t.userDevices user).Perm ((m.devicesOf user).map Device.id) := by
    have members := Tables.members_ascending t.userDevices user
    have ids := Table.ascending_rows _ Device.id own
    refine (List.perm_ext_iff_of_nodup (members.imp UInt64.ne_of_lt) (ids.imp UInt64.ne_of_lt)).2 ?_
    intro id
    simp only [held.userDevices.mem_members, List.mem_map, Table.mem_rows]
    constructor
    · rintro ⟨row, filed, mine⟩
      obtain ⟨device, there, shown⟩ := h.devices.of_left filed
      refine ⟨device, ⟨id, ?_⟩, shown.id.symm.trans (held.devices.own id row filed)⟩
      rw [Table.get?_filter, Option.filter_eq_some_iff, beq_iff_eq, ← shown.userId]
      exact ⟨there, mine⟩
    · rintro ⟨device, ⟨id', there⟩, rfl⟩
      have mine := own id' device there
      rw [Table.get?_filter, Option.filter_eq_some_iff, beq_iff_eq] at there
      obtain ⟨row, filed, shown⟩ := h.devices.of_right there.1
      exact ⟨row, mine ▸ filed, shown.userId.trans there.2⟩
  rw [perm.length_eq, List.length_map]

/-- What the registry grants access to is what the tables grant access to. -/
theorem grants (h : c.Shows cipher m) (held : t.Holds c) {id : UInt64} {device : Device} {user : User}
    (there : m.devices.get? id = some device) (owned : m.users.get? device.userId = some user) :
    ∃ row owner, t.Grants device.token user.keys.publicKey id row owner := by
  obtain ⟨row, filed, shown⟩ := h.devices.of_right there
  obtain ⟨owner, known, shown'⟩ := h.users.of_right owned
  rw [← shown.userId] at known
  exact ⟨row, owner, held.devices.get?_row filed, shown.token, held.users.get?_row known,
    shown'.publicKey⟩

theorem alone_iff (h : c.Shows cipher m) (held : t.Holds c) (user : UInt64) :
    c.Alone user ↔ m.devicesOf user = [] := by
  rw [← List.length_eq_zero_iff, ← h.length_devicesOf held, List.length_eq_zero_iff,
    List.eq_nil_iff_forall_not_mem]
  simp only [held.userDevices.mem_members, not_exists, not_and, Contents.Alone, ne_eq]

end Contents.Shows
end DeviceRegistry
