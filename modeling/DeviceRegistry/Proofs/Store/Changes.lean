import DeviceRegistry.Proofs.Store.Operations

/-! The changes that registering, recording and removing make to the contents. They keep users with
devices only, and no id that was issued before comes to name another row. -/
namespace DeviceRegistry

/-- A table goes on with its sequence: what is filed under an id that was issued stays as it is, or
goes. -/
structure Succeeds {ρ : Type} (last : UInt64) (rows : Table UInt64 ρ) (last' : UInt64)
    (rows' : Table UInt64 ρ) : Prop where
  le : last ≤ last'
  kept : ∀ id row, id ≤ last → rows'.get? id = some row → rows.get? id = some row

namespace Succeeds

variable {ρ : Type} {last last' last'' : UInt64} {rows rows' rows'' : Table UInt64 ρ}

theorem refl (last : UInt64) (rows : Table UInt64 ρ) : Succeeds last rows last rows :=
  ⟨UInt64.le_refl _, fun _ _ _ there => there⟩

theorem trans (h : Succeeds last rows last' rows') (h' : Succeeds last' rows' last'' rows'') :
    Succeeds last rows last'' rows'' where
  le := UInt64.le_trans h.le h'.le
  kept id row issued there :=
    h.kept id row issued (h'.kept id row (UInt64.le_trans issued h.le) there)

theorem insert (room : Room last) (row : ρ) :
    Succeeds last rows (last + 1) (rows.insert (last + 1) row) where
  le := IssuedBy.le_next room
  kept id row issued there := by
    have old : id ≠ last + 1 := by
      rintro rfl
      exact room.not_le issued
    rwa [Table.get?_insert_ne _ _ old] at there

theorem erase (gone : UInt64) : Succeeds last rows last (rows.erase gone) where
  le := UInt64.le_refl _
  kept id row _ there := by
    by_cases same : id = gone
    · rw [same, Table.get?_erase_self] at there
      contradiction
    · rwa [Table.get?_erase_ne _ same] at there

theorem filter (p : ρ → Bool) : Succeeds last rows last (rows.filter p) where
  le := UInt64.le_refl _
  kept id row _ there := by
    rw [Table.get?_filter, Option.filter_eq_some_iff] at there
    exact there.1

end Succeeds

namespace Contents

variable {c c' c'' : Contents} {user : UserRow} {device : DeviceRow} {stream : StreamRow}

structure Precedes (c c' : Contents) : Prop where
  users : Succeeds c.lastUser c.users c'.lastUser c'.users
  devices : Succeeds c.lastDevice c.devices c'.lastDevice c'.devices
  streams : Succeeds c.lastStream c.streams c'.lastStream c'.streams

namespace Precedes

theorem refl (c : Contents) : c.Precedes c := ⟨.refl _ _, .refl _ _, .refl _ _⟩

theorem trans (h : c.Precedes c') (h' : c'.Precedes c'') : c.Precedes c'' :=
  ⟨h.users.trans h'.users, h.devices.trans h'.devices, h.streams.trans h'.streams⟩

theorem withUser (room : Room c.lastUser) (next : user.id = c.lastUser + 1) :
    c.Precedes (c.withUser user) where
  users := by
    rw [Contents.withUser, next]
    exact .insert room user
  devices := .refl _ _
  streams := .refl _ _

theorem withDevice (room : Room c.lastDevice) (next : device.id = c.lastDevice + 1) :
    c.Precedes (c.withDevice device) where
  users := .refl _ _
  devices := by
    rw [Contents.withDevice, next]
    exact .insert room device
  streams := .refl _ _

theorem withStream (room : Room c.lastStream) (next : stream.id = c.lastStream + 1) :
    c.Precedes (c.withStream stream) where
  users := .refl _ _
  devices := .refl _ _
  streams := by
    rw [Contents.withStream, next]
    exact .insert room stream

theorem withoutDevice (id : UInt64) : c.Precedes (c.withoutDevice id) :=
  ⟨.refl _ _, .erase id, .filter fun row : StreamRow => row.deviceId != id⟩

theorem withoutUser (id : UInt64) : c.Precedes (c.withoutUser id) :=
  ⟨.erase id, .refl _ _, .refl _ _⟩

end Precedes

/-- Every device can be read, and every user owns one. -/
structure Settled (c : Contents) : Prop where
  finite : ∀ id row, c.devices.get? id = some row → row.IsFinite
  owns : ∀ id row, c.users.get? id = some row → ¬ c.Alone id

theorem settled_empty : ({} : Contents).Settled := ⟨nofun, nofun⟩

theorem not_alone {id : UInt64} :
    ¬ c.Alone id ↔ ∃ device row, c.devices.get? device = some row ∧ row.userId = id := by
  simp [Alone]

theorem valid_fresh (h : c.Valid) (room : Room c.lastDevice) (next : device.id = c.lastDevice + 1) :
    c.devices.get? device.id = none :=
  next ▸ h.devices.fresh room

/-- Who owns a device owns it still when another one is added. -/
theorem Alone.of_withDevice (fresh : c.devices.get? device.id = none) {id : UInt64}
    (h : (c.withDevice device).Alone id) : c.Alone id := by
  intro other row there
  apply h other row
  have ne : other ≠ device.id := by
    rintro rfl
    rw [fresh] at there
    contradiction
  rw [Contents.withDevice, Table.get?_insert_ne _ _ ne, there]

/-- The contents once a user is known: the user was there, or was added with the next id. -/
inductive Joined (c : Contents) (user : UserRow) : Contents → Prop where
  | known (there : c.users.get? user.id = some user) : Joined c user c
  | new (next : user.id = c.lastUser + 1) (room : Room c.lastUser) : Joined c user (c.withUser user)

namespace Joined

theorem get? (h : c.Joined user c') : c'.users.get? user.id = some user := by
  cases h with
  | known there => exact there
  | new => exact Table.get?_insert_self ..

theorem devices (h : c.Joined user c') : c'.devices = c.devices := by
  cases h <;> rfl

theorem streams (h : c.Joined user c') : c'.streams = c.streams := by
  cases h <;> rfl

theorem lastDevice (h : c.Joined user c') : c'.lastDevice = c.lastDevice := by
  cases h <;> rfl

theorem lastStream (h : c.Joined user c') : c'.lastStream = c.lastStream := by
  cases h <;> rfl

theorem precedes (h : c.Joined user c') : c.Precedes c' := by
  cases h with
  | known => exact .refl c
  | new next room => exact .withUser room next

theorem valid (h : c.Joined user c') (valid : c.Valid) : c'.Valid := by
  cases h with
  | known => exact valid
  | new next room => exact valid.withUser room next

theorem old (h : c.Joined user c') {id : UInt64} {row : UserRow} (other : id ≠ user.id)
    (there : c'.users.get? id = some row) : c.users.get? id = some row := by
  cases h with
  | known => exact there
  | new => rwa [Contents.withUser, Table.get?_insert_ne _ _ other] at there

theorem keeps (h : c.Joined user c') (valid : c.Valid) {id : UInt64} {row : UserRow}
    (there : c.users.get? id = some row) : c'.users.get? id = some row := by
  cases h with
  | known => exact there
  | new next room =>
    have old : id ≠ user.id := by
      rintro rfl
      rw [next, valid.users.fresh room] at there
      contradiction
    rw [Contents.withUser, Table.get?_insert_ne _ _ old, there]

end Joined

/-- A device is registered: its owner is known, and the device has the next id and a new token. -/
structure Enrolled (c : Contents) (user : UserRow) (device : DeviceRow) (c' : Contents) : Prop where
  joined : ∃ c₁, c.Joined user c₁ ∧ c' = c₁.withDevice device
  next : device.id = c.lastDevice + 1
  room : Room c.lastDevice
  owner : device.userId = user.id
  new : ∀ id row, c.devices.get? id = some row → row.token ≠ device.token

namespace Enrolled

theorem precedes (h : c.Enrolled user device c') : c.Precedes c' := by
  obtain ⟨c₁, joined, rfl⟩ := h.joined
  refine joined.precedes.trans (.withDevice ?_ ?_)
  · rw [joined.lastDevice]
    exact h.room
  · rw [joined.lastDevice]
    exact h.next

theorem user_get? (h : c.Enrolled user device c') : c'.users.get? user.id = some user := by
  obtain ⟨c₁, joined, rfl⟩ := h.joined
  exact joined.get?

theorem device_get? (h : c.Enrolled user device c') : c'.devices.get? device.id = some device := by
  obtain ⟨c₁, -, rfl⟩ := h.joined
  exact Table.get?_insert_self ..

/-- Each user is the owner of the device, or was there before. -/
theorem eq_or_old_user (h : c.Enrolled user device c') {id : UInt64} {row : UserRow}
    (there : c'.users.get? id = some row) : row = user ∨ c.users.get? id = some row := by
  obtain ⟨c₁, joined, rfl⟩ := h.joined
  have known : c₁.users.get? id = some row := there
  by_cases same : id = user.id
  · rw [same, joined.get?] at known
    exact .inl (Option.some.inj known).symm
  · exact .inr (joined.old same known)

theorem keeps_user (h : c.Enrolled user device c') (valid : c.Valid) {id : UInt64} {row : UserRow}
    (there : c.users.get? id = some row) : c'.users.get? id = some row := by
  obtain ⟨c₁, joined, rfl⟩ := h.joined
  exact joined.keeps valid there

theorem streams (h : c.Enrolled user device c') : c'.streams = c.streams := by
  obtain ⟨c₁, joined, rfl⟩ := h.joined
  exact joined.streams

/-- A device other than the new one was there before, and the other way round. -/
theorem devices_get? (h : c.Enrolled user device c') {id : UInt64} (other : id ≠ device.id) :
    c'.devices.get? id = c.devices.get? id := by
  obtain ⟨c₁, joined, rfl⟩ := h.joined
  rw [Contents.withDevice, Table.get?_insert_ne _ _ other, joined.devices]

/-- A token that is new still is, unless the device has it. -/
theorem new_token (h : c.Enrolled user device c') {token : String} (other : device.token ≠ token)
    (new : ∀ id row, c.devices.get? id = some row → row.token ≠ token) :
    ∀ id row, c'.devices.get? id = some row → row.token ≠ token := by
  intro id row there
  by_cases same : id = device.id
  · rw [same, h.device_get?] at there
    exact Option.some.inj there ▸ other
  · rw [h.devices_get? same] at there
    exact new id row there

theorem settled (h : c.Enrolled user device c') (valid : c.Valid) (settled : c.Settled)
    (finite : device.IsFinite) : c'.Settled := by
  have there := h.device_get?
  obtain ⟨c₁, joined, rfl⟩ := h.joined
  have fresh : c₁.devices.get? device.id = none := by
    rw [joined.devices]
    exact valid_fresh valid h.room h.next
  constructor
  · intro id row found
    by_cases same : id = device.id
    · rw [same, there] at found
      exact Option.some.inj found ▸ finite
    · rw [Contents.withDevice, Table.get?_insert_ne _ _ same, joined.devices] at found
      exact settled.finite id row found
  · intro id row found alone
    by_cases same : id = user.id
    · exact alone device.id device there (same ▸ h.owner)
    · apply settled.owns id row (joined.old same found)
      have := alone.of_withDevice fresh
      rwa [Alone, joined.devices] at this

end Enrolled

/-- A stream with a new uid is recorded for a device that is there. -/
structure Attached (c : Contents) (device : UInt64) (stream : StreamRow) (c' : Contents) : Prop where
  made : c' = c.withStream stream
  next : stream.id = c.lastStream + 1
  room : Room c.lastStream
  mine : stream.deviceId = device
  known : ∃ row, c.devices.get? device = some row
  new : ∀ id row, c.streams.get? id = some row → row.uid ≠ stream.uid

namespace Attached

theorem precedes {id : UInt64} (h : c.Attached id stream c') : c.Precedes c' := by
  rw [h.made]
  exact .withStream h.room h.next

theorem settled {id : UInt64} (h : c.Attached id stream c') (settled : c.Settled) : c'.Settled := by
  rw [h.made]
  exact ⟨settled.finite, settled.owns⟩

end Attached

/-- The contents without a device, and without its owner if that was the last one. -/
inductive Removed (c : Contents) (id owner : UInt64) : Contents → Prop where
  | shared (more : ¬ (c.withoutDevice id).Alone owner) : Removed c id owner (c.withoutDevice id)
  | last (alone : (c.withoutDevice id).Alone owner) :
      Removed c id owner ((c.withoutDevice id).withoutUser owner)

namespace Removed

variable {id : UInt64}

theorem precedes {owner : UInt64} (h : c.Removed id owner c') : c.Precedes c' := by
  cases h with
  | shared => exact .withoutDevice id
  | last => exact (Precedes.withoutDevice id).trans (.withoutUser owner)

theorem old_user {owner : UInt64} (h : c.Removed id owner c') {other : UInt64} {row : UserRow}
    (there : c'.users.get? other = some row) : c.users.get? other = some row := by
  cases h with
  | shared => exact there
  | last =>
    by_cases same : other = owner
    · rw [withoutUser, same, Table.get?_erase_self] at there
      contradiction
    · rwa [withoutUser, Table.get?_erase_ne _ same] at there

theorem devices_get? {owner : UInt64} (h : c.Removed id owner c') {other : UInt64} (ne : other ≠ id) :
    c'.devices.get? other = c.devices.get? other := by
  cases h <;> exact Table.get?_erase_ne _ ne

theorem devices_gone {owner : UInt64} (h : c.Removed id owner c') : c'.devices.get? id = none := by
  cases h <;> exact Table.get?_erase_self ..

theorem old_stream {owner : UInt64} (h : c.Removed id owner c') {stream : UInt64} {row : StreamRow}
    (there : c'.streams.get? stream = some row) : c.streams.get? stream = some row := by
  have kept : (c.withoutDevice id).streams.get? stream = some row := by
    cases h <;> exact there
  rw [withoutDevice, Table.get?_filter, Option.filter_eq_some_iff] at kept
  exact kept.1

theorem streams_get? {owner : UInt64} (h : c.Removed id owner c') {stream : UInt64} {row : StreamRow}
    (there : c.streams.get? stream = some row) (ne : row.deviceId ≠ id) :
    c'.streams.get? stream = some row := by
  have kept : (c.withoutDevice id).streams.get? stream = some row := by
    rw [withoutDevice, Table.get?_filter, Option.filter_eq_some_iff, bne_iff_ne]
    exact ⟨there, ne⟩
  cases h <;> exact kept

theorem users_get? {owner : UInt64} (h : c.Removed id owner c') {other : UInt64} {row : DeviceRow}
    (there : c.devices.get? other = some row) (ne : other ≠ id) :
    c'.users.get? row.userId = c.users.get? row.userId := by
  cases h with
  | shared => rfl
  | last alone =>
    refine Table.get?_erase_ne _ (alone other row ?_)
    rw [withoutDevice, Table.get?_erase_ne _ ne, there]

/-- Whoever does not own the device that goes keeps what he owns. -/
theorem alone_of_withoutDevice (there : c.devices.get? id = some device) {owner : UInt64}
    (other : owner ≠ device.userId) (alone : (c.withoutDevice id).Alone owner) : c.Alone owner := by
  intro kept row found
  by_cases same : kept = id
  · rw [same, there] at found
    rw [← Option.some.inj found]
    exact other.symm
  · apply alone kept row
    rw [Contents.withoutDevice, Table.get?_erase_ne _ same, found]

theorem settled (there : c.devices.get? id = some device) (h : c.Removed id device.userId c')
    (settled : c.Settled) : c'.Settled := by
  have finite : ∀ kept row, (c.withoutDevice id).devices.get? kept = some row → row.IsFinite := by
    intro kept row found
    by_cases same : kept = id
    · rw [Contents.withoutDevice, same, Table.get?_erase_self] at found
      contradiction
    · rw [Contents.withoutDevice, Table.get?_erase_ne _ same] at found
      exact settled.finite kept row found
  cases h with
  | shared more =>
    refine ⟨finite, ?_⟩
    intro owner row found alone
    by_cases mine : owner = device.userId
    · exact more (mine ▸ alone)
    · exact settled.owns owner row found (alone_of_withoutDevice there mine alone)
  | last =>
    refine ⟨finite, ?_⟩
    intro owner row found alone
    by_cases mine : owner = device.userId
    · rw [Contents.withoutUser, mine, Table.get?_erase_self] at found
      contradiction
    · rw [Contents.withoutUser, Table.get?_erase_ne _ mine] at found
      exact settled.owns owner row found (alone_of_withoutDevice there mine alone)

end Removed

theorem Valid.streams_ne (valid : c.Valid) {id : UInt64} (none : c.devices.get? id = none)
    {stream : UInt64} {row : StreamRow} (there : c.streams.get? stream = some row) :
    row.deviceId ≠ id := by
  rintro rfl
  obtain ⟨device, known⟩ := valid.device stream row there
  rw [none] at known
  contradiction

/-- Taking a new device away leaves what was there before. -/
theorem withoutDevice_withDevice (valid : c.Valid) (fresh : c.devices.get? device.id = none) :
    (c.withDevice device).withoutDevice device.id = { c with lastDevice := device.id } := by
  have devices : (c.devices.insert device.id device).erase device.id = c.devices :=
    Table.erase_insert device fresh
  have streams : (c.streams.filter fun row => row.deviceId != device.id) = c.streams := by
    apply Table.ext_get?
    intro id
    apply Option.ext
    intro row
    rw [Table.get?_filter, Option.filter_eq_some_iff, bne_iff_ne, and_iff_left_iff_imp]
    exact valid.streams_ne fresh
  rw [Contents.withoutDevice, Contents.withDevice, devices, streams]

/-- Removing what was registered restores the rows. The owner goes if it came with the device, and
stays if it was there before, because then it owns another one. -/
theorem Enrolled.undone (h : c.Enrolled user device c') (valid : c.Valid) (settled : c.Settled)
    (gone : c'.Removed device.id device.userId c'') :
    c''.SameRows c ∧ c''.lastStream = c.lastStream := by
  obtain ⟨c₁, joined, rfl⟩ := h.joined
  have fresh : c₁.devices.get? device.id = none := by
    rw [joined.devices]
    exact valid_fresh valid h.room h.next
  have back := withoutDevice_withDevice (joined.valid valid) fresh
  rw [h.owner] at gone
  cases gone with
  | shared more =>
    rw [back] at more ⊢
    refine ⟨⟨?_, joined.devices, joined.streams⟩, joined.lastStream⟩
    cases joined with
    | known => rfl
    | new next room =>
      obtain ⟨other, row, there, mine⟩ := not_alone.1 more
      obtain ⟨owner, owned⟩ := valid.owner other row there
      rw [mine, next, valid.users.fresh room] at owned
      contradiction
  | last alone =>
    rw [back] at alone ⊢
    refine ⟨⟨?_, joined.devices, joined.streams⟩, joined.lastStream⟩
    cases joined with
    | known there => exact absurd alone (settled.owns user.id user there)
    | new next room =>
      apply Table.erase_insert user
      rw [next]
      exact valid.users.fresh room

namespace Attached

variable {id : UInt64}

/-- A stream that is the first of its device is its only one. -/
theorem streamsOf (h : c.Attached id stream c')
    (first : ∀ other row, c.streams.get? other = some row → row.deviceId ≠ id) :
    c'.StreamsOf id [stream] := by
  constructor
  · intro row
    rw [List.mem_singleton, h.made, withStream]
    by_cases same : row.id = stream.id
    · rw [same, Table.get?_insert_self]
      constructor
      · rintro rfl
        exact ⟨rfl, h.mine⟩
      · rintro ⟨there, -⟩
        exact (Option.some.inj there).symm
    · rw [Table.get?_insert_ne _ _ same]
      constructor
      · rintro rfl
        exact absurd rfl same
      · rintro ⟨there, mine⟩
        exact absurd mine (first _ _ there)
  · exact List.pairwise_singleton ..

/-- A device goes with a stream that it was given as if it had not been given it. -/
theorem removed {owner : UInt64} (h : c.Attached id stream c') (valid : c.Valid)
    (gone : c'.Removed id owner c'') : ∃ rest, c.Removed id owner rest ∧ c''.SameRows rest := by
  have streams : (c'.withoutDevice id).streams = (c.withoutDevice id).streams := by
    rw [h.made]
    apply Table.ext_get?
    intro other
    rw [withoutDevice, withoutDevice, Table.get?_filter, Table.get?_filter, withStream]
    by_cases same : other = stream.id
    · have fresh : c.streams.get? stream.id = none := h.next ▸ valid.streams.fresh h.room
      rw [same, Table.get?_insert_self, fresh]
      simp [Option.filter, h.mine]
    · rw [Table.get?_insert_ne _ _ same]
  have devices : (c'.withoutDevice id).devices = (c.withoutDevice id).devices := by rw [h.made]; rfl
  have users : c'.users = c.users := by rw [h.made]; rfl
  have alone : (c'.withoutDevice id).Alone owner ↔ (c.withoutDevice id).Alone owner := by
    rw [Alone, Alone, devices]
  cases gone with
  | shared more => exact ⟨_, .shared (mt alone.2 more), users, devices, streams⟩
  | last last =>
    refine ⟨_, .last (alone.1 last), ?_, devices, streams⟩
    show c'.users.erase owner = c.users.erase owner
    rw [users]

end Attached
end Contents
end DeviceRegistry
