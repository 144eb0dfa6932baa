import DeviceRegistry.Proofs.Store.Keeping
import DeviceRegistry.Proofs.Store.Opening

/-! A device that was inserted can be used, and deleted by its owner, exactly if its place is finite.
Any other place is stored as null, and no row is read back from that. -/
namespace DeviceRegistry
open StoredRow

namespace Tables

variable {t : Tables} {id : UInt64}

theorem row?_of_stores {ρ : Type} [StoredRow ρ] {rows : Table UInt64 Bytes} {row : ρ}
    (stored : Stores rows id row) :
    (row? rows id : Except StoreError (Option ρ)) = (decode (encode row)).map some := by
  rw [row?, stored]

theorem stores_withRow_self {ρ : Type} [StoredRow ρ] (rows : Table UInt64 Bytes) (row : ρ) :
    Stores (withRow rows id row) id row :=
  Table.get?_insert_self ..

/-- A user's row that can be read is stored in the form in which it is written. -/
theorem Consistent.stores_user (h : t.Consistent) {owner : UserRow}
    (read : (row? t.users id : Except StoreError (Option UserRow)) = .ok (some owner)) :
    Stores t.users id owner := by
  rw [row?] at read
  cases filed : t.users.get? id with
  | none => simp [filed] at read
  | some b =>
    obtain ⟨row, rfl, -⟩ := h.users.own id b filed
    simp only [filed, row.decode_encode, Except.map, Except.ok.injEq, Option.some.injEq] at read
    exact read ▸ filed

/-- The next device has no streams yet, even when the sequence has come round. -/
theorem Consistent.members_next (h : t.Consistent) :
    members t.deviceStreams (t.issued "devices" + 1) = [] := by
  rw [List.eq_nil_iff_forall_not_mem]
  intro stream listed
  rw [mem_members, h.deviceStreams] at listed
  obtain ⟨row, stored, mine⟩ := listed
  have known := h.device stream row stored
  rw [mine, IssuedBy.next_new h.devices.issued] at known
  contradiction

theorem members_insert {links : Table Link Unit} (none : members links id = []) (stream : UInt64) :
    members (links.insert ⟨id, stream⟩ ()) id = [stream] := by
  have listed : ∀ m, m ∈ members (links.insert ⟨id, stream⟩ ()) id ↔ m ∈ [stream] := by
    intro m
    have absent : links.get? ⟨id, m⟩ ≠ some () := by
      rw [Ne, ← mem_members, none]
      exact List.not_mem_nil
    rw [mem_members, List.mem_singleton]
    by_cases same : m = stream
    · simp [same, Table.get?_insert_self]
    · rw [Table.get?_insert_ne _ _ (by simp [same])]
      simp [same, absent]
  have distinct : (members (links.insert ⟨id, stream⟩ ()) id).Nodup :=
    (members_ascending _ _).imp UInt64.ne_of_lt
  exact List.perm_singleton.1
    ((List.perm_ext_iff_of_nodup distinct (List.pairwise_singleton _ _)).2 listed)

end Tables

namespace Transaction

variable {tx tx' : Transaction} {d : NewDevice} {device : Device}

/-- The device can be used: it can be given a stream with any uid that is free, and its owner's key
deletes it, with the stream that it was given or with none. -/
structure Serves (tx : Transaction) (device : Device) (owner : UserRow) : Prop where
  records : ∀ uid, tx.tables.streamsByUid.get? uid = none → ∃ stream tx' tx'',
    stream.uid = uid ∧ insertStream device.id uid tx = .ok stream tx' ∧
      deleteDevice device.token owner.publicKey tx' = .ok ⟨device.id, device.userId, [stream]⟩ tx''
  deletes : ∃ tx',
    deleteDevice device.token owner.publicKey tx = .ok ⟨device.id, device.userId, []⟩ tx'

/-- The device is stuck: it can be given no stream, and no key deletes it. -/
structure Stuck (tx : Transaction) (device : Device) : Prop where
  records : ∀ uid, ∃ e, insertStream device.id uid tx = .error e tx
  deletes : ∀ publicKey, ∃ e, deleteDevice device.token publicKey tx = .error e tx

theorem Serves.not_stuck {owner : UserRow} (h : tx.Serves device owner) : ¬ tx.Stuck device := by
  intro stuck
  obtain ⟨tx', deleted⟩ := h.deletes
  obtain ⟨e, refused⟩ := stuck.deletes owner.publicKey
  rw [deleted] at refused
  contradiction

/-- Where a device was just inserted: its row, and its owner's. -/
structure Inserted (tx : Transaction) (device : Device) (row : DeviceRow) (owner : UserRow) :
    Prop where
  stored : Stores tx.tables.devices device.id row
  found : tx.tables.devicesByToken.get? device.token = some device.id
  token : row.token = device.token
  userId : row.userId = device.userId
  owned : Stores tx.tables.users device.userId owner
  unused : Tables.members tx.tables.deviceStreams device.id = []

theorem insertDevice_inserted (consistent : tx.tables.Consistent)
    (inserted : insertDevice d tx = .ok device tx') :
    ∃ row owner, tx'.Inserted device row owner ∧ row.location = d.location ∧
      Stores tx.tables.users d.userId owner := by
  obtain ⟨-, ⟨owner, read⟩, rfl, key, rfl⟩ := insertDevice_eq_ok inserted
  have owned := consistent.stores_user read
  exact ⟨d.row _ key, owner, {
    stored := Tables.stores_withRow_self ..
    found := Table.get?_insert_self ..
    token := rfl
    userId := rfl
    owned := owned
    unused := consistent.members_next }, rfl, owned⟩

namespace Inserted

variable {row : DeviceRow} {owner : UserRow}

theorem deletes {streams : List StreamRow} (h : tx.Inserted device row owner) (finite : row.IsFinite)
    (tx' : Transaction) (same : tx'.tables.devices = tx.tables.devices ∧
      tx'.tables.users = tx.tables.users ∧
      tx'.tables.devicesByToken = tx.tables.devicesByToken)
    (listed : streamsOf device.id tx' = .ok streams tx') :
    ∃ tx'', deleteDevice device.token owner.publicKey tx' =
      .ok ⟨device.id, device.userId, streams⟩ tx'' := by
  obtain ⟨devices, users, tokens⟩ := same
  have found := h.found
  rw [← h.token, ← tokens] at found
  have read := Tables.row?_of_stores h.stored
  rw [DeviceRow.decode_encode finite, ← devices] at read
  have readOwner := Tables.row?_of_stores h.owned
  rw [owner.decode_encode, ← h.userId, ← users] at readOwner
  have deleted := deleteDevice_of_rows found read readOwner listed
  rw [h.token, h.userId] at deleted
  exact ⟨_, deleted⟩

theorem serves (h : tx.Inserted device row owner) (finite : row.IsFinite) :
    tx.Serves device owner where
  records uid new := by
    have read := Tables.row?_of_stores h.stored
    rw [DeviceRow.decode_encode finite] at read
    let stream : StreamRow := ⟨tx.tables.issued "streams" + 1, uid, device.id⟩
    let tx' : Transaction := { tx with tables := tx.tables.withStream stream }
    have listed : streamsOf device.id tx' = .ok [stream] tx' := by
      refine streamsOf_of_rows (Tables.members_insert h.unused stream.id) ?_
      rw [List.forall_mem_singleton]
      have stored : Stores tx'.tables.streams stream.id stream := Tables.stores_withRow_self ..
      rw [Tables.row?_of_stores stored, stream.decode_encode]
      rfl
    obtain ⟨tx'', deleted⟩ := h.deletes finite tx' ⟨rfl, rfl, rfl⟩ listed
    exact ⟨stream, tx', tx'', rfl, insertStream_of_row read new, deleted⟩
  deletes := h.deletes finite tx ⟨rfl, rfl, rfl⟩ (streamsOf_of_rows h.unused nofun)

theorem stuck (h : tx.Inserted device row owner) (infinite : ¬ row.IsFinite) :
    tx.Stuck device := by
  obtain ⟨e, unread⟩ := DeviceRow.decode_encode_infinite infinite
  have read := Tables.row?_of_stores h.stored
  rw [unread] at read
  constructor
  · intro uid
    cases new : tx.tables.streamsByUid.get? uid with
    | none => exact ⟨e, insertStream_unreadable read new⟩
    | some other =>
      refine ⟨.duplicate "streams.uid", ?_⟩
      rw [insertStream, bind_ok (ask_eq _ tx), new]
      rfl
  · exact fun publicKey => ⟨e, deleteDevice_unreadable h.found read⟩

end Inserted

/-- Alice, who has no device yet. -/
def alice : UserRow := ⟨1, "alice", [], "public"⟩

def household : Tables := ({} : Tables).withUser alice

/-- Alice's meter, on the equator. -/
def meterAt (longitude : Binary64) : NewDevice :=
  ⟨"meter", 1, ⟨"private", "public of the meter"⟩, ⟨longitude, .zero⟩, .indoor⟩

/-- The household holds Alice, so that its tables are consistent and her meter is accepted, wherever
it stands. -/
theorem household_accepts (longitude : Binary64) :
    ∃ tx tx', tx.tables.Consistent ∧ Stores tx.tables.users 1 alice ∧
      insertDevice (meterAt longitude) tx = .ok ⟨meterAt longitude, 1⟩ tx' ∧
      tx'.tables.streamsByUid = .empty := by
  let contents : Contents := ({} : Contents).withUser alice
  have held : household.Holds contents :=
    Tables.Holds.empty.withUser (show 1 < UInt64.size by decide) rfl rfl
  let tx : Transaction := ⟨household, .derive [] [], ⟨fun _ => some (List.replicate 12 0), 0⟩⟩
  have ready : tx.entropy.Ready := fun _ _ => ⟨_, rfl, rfl⟩
  have known : contents.users.get? 1 = some alice := rfl
  have outcome : DeviceInserted contents (meterAt longitude) tx (insertDevice (meterAt longitude) tx) :=
    insertDevice_outcome held _
  generalize run : insertDevice (meterAt longitude) tx = result at outcome
  cases outcome with
  | taken there => cases there
  | unowned new unknown => cases known.symm.trans unknown
  | unsealed new known unsealed =>
    obtain ⟨value, sealed⟩ := tx.cipher.encryptText_ready deviceKeyColumn ready (.refl _)
      (show Sealable "private" by decide)
    cases sealed.symm.trans unsealed
  | inserted next =>
    subst next
    exact ⟨tx, _, held.consistent, held.users.get?_row known, run, rfl⟩

/-- A device that was inserted serves its owner if its place is finite, and is stuck otherwise. -/
theorem insertDevice_serves_iff (consistent : tx.tables.Consistent)
    (inserted : insertDevice d tx = .ok device tx') :
    ∃ owner, Stores tx.tables.users d.userId owner ∧
      (tx'.Serves device owner ↔ d.IsFinite) ∧ (tx'.Stuck device ↔ ¬ d.IsFinite) := by
  obtain ⟨row, owner, inserted, place, owned⟩ := insertDevice_inserted consistent inserted
  have finite : row.IsFinite ↔ d.IsFinite := by rw [DeviceRow.IsFinite, NewDevice.IsFinite, place]
  rw [← finite]
  refine ⟨owner, owned, ⟨fun serves => ?_, inserted.serves⟩,
    ⟨fun stuck finite => (inserted.serves finite).not_stuck stuck, inserted.stuck⟩⟩
  exact Classical.not_not.1 fun infinite => serves.not_stuck (inserted.stuck infinite)

theorem insertDevice_serves_iff_meter :
    ∃ tx tx' owner, tx.tables.Consistent ∧
      insertDevice (meterAt (.ofNat 7)) tx = .ok ⟨meterAt (.ofNat 7), 1⟩ tx' ∧
      Stores tx.tables.users 1 owner ∧ tx'.Serves ⟨meterAt (.ofNat 7), 1⟩ owner := by
  obtain ⟨tx, tx', consistent, -, inserted, -⟩ := household_accepts (.ofNat 7)
  obtain ⟨owner, owned, serves_iff, -⟩ := insertDevice_serves_iff consistent inserted
  have finite : (meterAt (.ofNat 7)).IsFinite := by
    constructor <;> decide +kernel
  exact ⟨tx, tx', owner, consistent, inserted, owned, serves_iff.2 finite⟩

/-- A meter of which the longitude is not a number is accepted. It can then be given no stream, and
its owner cannot delete it. -/
theorem insertDevice_not_serves :
    ∃ tx tx', tx.tables.Consistent ∧ Stores tx.tables.users 1 alice ∧
      insertDevice (meterAt .nan) tx = .ok ⟨meterAt .nan, 1⟩ tx' ∧
      tx'.tables.streamsByUid.get? "stream" = none ∧
      (∃ e, insertStream 1 "stream" tx' = .error e tx') ∧
      ∃ e, deleteDevice "meter" alice.publicKey tx' = .error e tx' := by
  obtain ⟨tx, tx', consistent, owned, run, empty⟩ := household_accepts .nan
  obtain ⟨row, owner, inserted, place, -⟩ := insertDevice_inserted consistent run
  have infinite : ¬ row.IsFinite := by
    rw [DeviceRow.IsFinite, place]
    decide +kernel
  have stuck := inserted.stuck infinite
  exact ⟨tx, tx', consistent, owned, run, empty ▸ rfl, stuck.records "stream",
    stuck.deletes alice.publicKey⟩

end Transaction
end DeviceRegistry
