import DeviceRegistry.Proofs.Crypto.Column
import DeviceRegistry.Proofs.Store.Contents

/-! What each operation of a transaction does to tables that hold certain contents: all its
outcomes, with what is known of the contents in each. -/
namespace DeviceRegistry
open StoredRow

namespace Shelf

variable {ρ : Type} [StoredRow ρ] [Keyed ρ] {rows : Table UInt64 Bytes} {index : Table String UInt64}
  {c : Table UInt64 ρ} {id : UInt64} {row : ρ}

theorem row?_none (h : Shelf rows index c) (gone : c.get? id = none) :
    (Tables.row? rows id : Except StoreError (Option ρ)) = .ok none := by
  rw [Tables.row?, h.stored, gone]
  rfl

theorem row?_some (h : Shelf rows index c) (there : c.get? id = some row) :
    (Tables.row? rows id : Except StoreError (Option ρ)) = (decode (encode row)).map some := by
  rw [Tables.row?, h.stored, there]
  rfl

end Shelf

/-- The device that a token and a public key give access to: it has the token and can be read, and
its owner has the key. -/
structure Contents.Grants (c : Contents) (token publicKey : String) (id : UInt64)
    (device : DeviceRow) (owner : UserRow) : Prop where
  there : c.devices.get? id = some device
  token : device.token = token
  finite : device.IsFinite
  owned : c.users.get? device.userId = some owner
  key : owner.publicKey = publicKey

theorem Contents.Grants.unique {c : Contents} {token publicKey : String} {id id' : UInt64}
    {device device' : DeviceRow} {owner owner' : UserRow}
    (granted : c.Grants token publicKey id device owner) {t : Tables} (h : t.Holds c)
    (granted' : c.Grants token publicKey id' device' owner') : id = id' :=
  h.devices.id_eq granted.there granted'.there (granted.token.trans granted'.token.symm)

def Contents.Alone (c : Contents) (user : UInt64) : Prop :=
  ∀ id device, c.devices.get? id = some device → device.userId ≠ user

/-- The key of a user's row opens. -/
def UserRow.Opens (cipher : ColumnCipher) (row : UserRow) : Prop :=
  ∃ key, cipher.decryptText Transaction.userKeyColumn row.privateKey = .ok key

def NewDevice.row (d : NewDevice) (id : UInt64) (key : Bytes) : DeviceRow :=
  ⟨id, d.token, d.userId, key, d.keys.publicKey, d.location, d.disposition⟩

namespace Entropy

def next (e : Entropy) : Entropy := { e with used := e.used + 1 }

structure Later (e e' : Entropy) : Prop where
  draw : e'.draw = e.draw
  used : e.used ≤ e'.used

theorem Later.refl (e : Entropy) : e.Later e := ⟨rfl, Nat.le_refl _⟩

theorem Later.trans {e e' e'' : Entropy} (h : e.Later e') (h' : e'.Later e'') : e.Later e'' :=
  ⟨h'.draw.trans h.draw, Nat.le_trans h.used h'.used⟩

theorem later_next (e : Entropy) : e.Later e.next := ⟨rfl, Nat.le_succ _⟩

end Entropy

namespace Transaction

variable {tx : Transaction} {c : Contents}

theorem ask_eq {α : Type} (f : Tables → α) (tx : Transaction) : ask f tx = .ok (f tx.tables) tx :=
  rfl

theorem tryAsk_ok {α : Type} {f : Tables → Except StoreError α} {a : α} (h : f tx.tables = .ok a) :
    tryAsk f tx = .ok a tx := by
  rw [tryAsk, bind_ok (get_ok tx), h]
  rfl

theorem tryAsk_error {α : Type} {f : Tables → Except StoreError α} {e : StoreError}
    (h : f tx.tables = .error e) : tryAsk f tx = .error e tx := by
  rw [tryAsk, bind_ok (get_ok tx), h]
  rfl

theorem change_eq (f : Tables → Tables) (tx : Transaction) :
    change f tx = .ok () { tx with tables := f tx.tables } := rfl

theorem orFail_some {α : Type} (e : StoreError) (a : α) (tx : Transaction) :
    orFail e (some a) tx = .ok a tx := rfl

theorem nextId_eq (sequence : String) (tx : Transaction) :
    nextId sequence tx =
      .ok (tx.tables.issued sequence + 1) { tx with tables := tx.tables.skip sequence } := rfl

theorem openKey_ok {column key : String} {value : Bytes}
    (h : tx.cipher.decryptText column value = .ok key) : openKey column value tx = .ok key tx := by
  rw [openKey, bind_ok (get_ok tx), h]
  rfl

theorem openKey_error {column : String} {value : Bytes} {e : CipherError}
    (h : tx.cipher.decryptText column value = .error e) :
    openKey column value tx = .error (.cipher e) tx := by
  rw [openKey, bind_ok (get_ok tx), h]
  rfl

/-- A key is sealed so that it opens again, or there is an error. Either way the tables stay. -/
inductive Sealed (column plain : String) (tx : Transaction) :
    EStateM.Result StoreError Transaction Bytes → Prop where
  | done {value : Bytes} (opens : tx.cipher.decryptText column value = .ok plain)
      (short : Sealable plain) :
      Sealed column plain tx (.ok value { tx with entropy := tx.entropy.next })
  | failed {e : CipherError}
      (unsealed : tx.cipher.encryptText column plain (tx.entropy.draw tx.entropy.used) = .error e) :
      Sealed column plain tx (.error (.cipher e) { tx with entropy := tx.entropy.next })

theorem sealKey_outcome (column plain : String) (tx : Transaction) :
    Sealed column plain tx (sealKey column plain tx) := by
  rw [sealKey, bind_ok (get_ok tx), bind_ok (set_ok _ tx)]
  cases drawn : tx.cipher.encryptText column plain (tx.entropy.draw tx.entropy.used) with
  | ok value =>
    exact .done (ColumnCipher.decryptText_encryptText drawn)
      (ColumnCipher.sealable_of_encryptText drawn)
  | error e => exact .failed drawn

inductive Upserted (c : Contents) (uid : String) (keys : KeyPair) (tx : Transaction) :
    EStateM.Result StoreError Transaction User → Prop where
  | known {id : UInt64} {row : UserRow} {key : String} (there : c.users.get? id = some row)
      (mine : row.uid = uid) (opens : tx.cipher.decryptText userKeyColumn row.privateKey = .ok key) :
      Upserted c uid keys tx (.ok ⟨id, uid, ⟨key, row.publicKey⟩⟩ tx)
  /-- The user is there, but its private key does not open. -/
  | locked {id : UInt64} {row : UserRow} {e : CipherError} (there : c.users.get? id = some row)
      (mine : row.uid = uid)
      (closed : tx.cipher.decryptText userKeyColumn row.privateKey = .error e) :
      Upserted c uid keys tx (.error (.cipher e) tx)
  | new {row : UserRow} (new : tx.tables.usersByUid.get? row.uid = none)
      (next : row.id = c.lastUser + 1) (mine : row.uid = uid) (given : row.publicKey = keys.publicKey)
      (opens : tx.cipher.decryptText userKeyColumn row.privateKey = .ok keys.privateKey)
      (short : Sealable keys.privateKey) :
      Upserted c uid keys tx (.ok ⟨row.id, uid, keys⟩
        { tx with tables := tx.tables.withUser row, entropy := tx.entropy.next })
  | unsealed {e : CipherError} (new : tx.tables.usersByUid.get? uid = none)
      (unsealed : tx.cipher.encryptText userKeyColumn keys.privateKey
        (tx.entropy.draw tx.entropy.used) = .error e) :
      Upserted c uid keys tx (.error (.cipher e)
        { tx with tables := tx.tables.skip "users", entropy := tx.entropy.next })

theorem upsertUser_outcome (h : tx.tables.Holds c) (uid : String) (keys : KeyPair) :
    Upserted c uid keys tx (upsertUser uid keys tx) := by
  rw [upsertUser, bind_ok (ask_eq _ tx)]
  cases found : tx.tables.usersByUid.get? uid with
  | some id =>
    obtain ⟨row, there, rfl⟩ := (h.users.found uid id).1 found
    have read : (Tables.row? tx.tables.users id : Except StoreError (Option UserRow)) =
        .ok (some row) := by
      rw [h.users.row?_some there, row.decode_encode]
      rfl
    have again : ({ tx.tables with users := Tables.withRow tx.tables.users id row } : Tables) =
        tx.tables := by
      rw [Tables.withRow, Table.insert_of_get? (h.users.get?_row there)]
    dsimp only
    rw [bind_ok (tryAsk_ok read), bind_ok (orFail_some _ row tx), bind_ok (change_eq _ tx), again]
    cases opened : tx.cipher.decryptText userKeyColumn row.privateKey with
    | ok key =>
      rw [bind_ok (openKey_ok opened)]
      exact .known there rfl opened
    | error e =>
      rw [bind_error (openKey_error opened)]
      exact .locked there rfl opened
  | none =>
    dsimp only
    rw [bind_ok (nextId_eq _ tx)]
    generalize outcome : sealKey userKeyColumn keys.privateKey
      { tx with tables := tx.tables.skip "users" } = result
    have done := outcome ▸ sealKey_outcome userKeyColumn keys.privateKey
      { tx with tables := tx.tables.skip "users" }
    cases done with
    | done opens short =>
      rw [bind_ok outcome]
      have next : tx.tables.issued "users" + 1 = c.lastUser + 1 := by rw [h.lastUser]
      exact @Upserted.new c uid keys tx ⟨_, uid, _, keys.publicKey⟩ found next rfl rfl opens short
    | failed unsealed =>
      rw [bind_error outcome]
      exact .unsealed found unsealed

inductive DeviceInserted (c : Contents) (d : NewDevice) (tx : Transaction) :
    EStateM.Result StoreError Transaction Device → Prop where
  | taken {id : UInt64} {row : DeviceRow} (there : c.devices.get? id = some row)
      (mine : row.token = d.token) : DeviceInserted c d tx (.error (.duplicate "devices.token") tx)
  | unowned (new : tx.tables.devicesByToken.get? d.token = none)
      (unknown : c.users.get? d.userId = none) :
      DeviceInserted c d tx (.error (.reference "devices.user_id") tx)
  | unsealed {e : CipherError} {owner : UserRow}
      (new : tx.tables.devicesByToken.get? d.token = none)
      (known : c.users.get? d.userId = some owner)
      (unsealed : tx.cipher.encryptText deviceKeyColumn d.keys.privateKey
        (tx.entropy.draw tx.entropy.used) = .error e) :
      DeviceInserted c d tx (.error (.cipher e)
        { tx with tables := tx.tables.skip "devices", entropy := tx.entropy.next })
  | inserted {id : UInt64} {key : Bytes} {owner : UserRow} (next : id = c.lastDevice + 1)
      (new : tx.tables.devicesByToken.get? d.token = none)
      (known : c.users.get? d.userId = some owner)
      (opens : tx.cipher.decryptText deviceKeyColumn key = .ok d.keys.privateKey)
      (short : Sealable d.keys.privateKey) :
      DeviceInserted c d tx (.ok { d with id }
        { tx with tables := tx.tables.withDevice (d.row id key), entropy := tx.entropy.next })

/-- An insertion looks at users and devices, and needs no more of the tables than that they are
filed. -/
theorem insertDevice_of_shelves (users : Shelf tx.tables.users tx.tables.usersByUid c.users)
    (devices : Shelf tx.tables.devices tx.tables.devicesByToken c.devices)
    (lastDevice : tx.tables.issued "devices" = c.lastDevice) (d : NewDevice) :
    DeviceInserted c d tx (insertDevice d tx) := by
  rw [insertDevice, bind_ok (ask_eq _ tx)]
  cases taken : tx.tables.devicesByToken.get? d.token with
  | some id =>
    obtain ⟨row, there, mine⟩ := (devices.found d.token id).1 taken
    exact .taken there mine
  | none =>
    simp only [Option.isSome_none, Bool.false_eq_true, if_false]
    cases known : c.users.get? d.userId with
    | none =>
      have read := users.row?_none known
      rw [bind_ok (tryAsk_ok read)]
      exact .unowned taken known
    | some owner =>
      have read : (Tables.row? tx.tables.users d.userId : Except StoreError (Option UserRow)) =
          .ok (some owner) := by
        rw [users.row?_some known, owner.decode_encode]
        rfl
      rw [bind_ok (tryAsk_ok read)]
      simp only [Option.isNone_some, Bool.false_eq_true, if_false]
      rw [bind_ok (nextId_eq _ tx)]
      generalize outcome : sealKey deviceKeyColumn d.keys.privateKey
        { tx with tables := tx.tables.skip "devices" } = result
      have done := outcome ▸ sealKey_outcome deviceKeyColumn d.keys.privateKey
        { tx with tables := tx.tables.skip "devices" }
      cases done with
      | done opens short =>
        rw [bind_ok outcome]
        exact .inserted (by rw [lastDevice]) taken known opens short
      | failed unsealed =>
        rw [bind_error outcome]
        exact .unsealed taken known unsealed

theorem insertDevice_outcome (h : tx.tables.Holds c) (d : NewDevice) :
    DeviceInserted c d tx (insertDevice d tx) :=
  insertDevice_of_shelves h.users h.devices h.lastDevice d

theorem tryAsk_eq_ok {α : Type} {f : Tables → Except StoreError α} {a : α} {tx' : Transaction}
    (h : tryAsk f tx = .ok a tx') : f tx.tables = .ok a ∧ tx' = tx := by
  cases read : f tx.tables with
  | ok b =>
    rw [tryAsk_ok read] at h
    cases h
    exact ⟨rfl, rfl⟩
  | error e =>
    rw [tryAsk_error read] at h
    cases h

/-- A device that was inserted has a token that was new, and an owner who can be read. -/
theorem insertDevice_eq_ok {d : NewDevice} {device : Device} {tx' : Transaction}
    (h : insertDevice d tx = .ok device tx') :
    tx.tables.devicesByToken.get? d.token = none ∧
      (∃ owner, (Tables.row? tx.tables.users d.userId : Except StoreError (Option UserRow)) =
        .ok (some owner)) ∧
      device = { d with id := tx.tables.issued "devices" + 1 } ∧
      ∃ key, tx' = { tx with
        tables := tx.tables.withDevice (d.row device.id key), entropy := tx.entropy.next } := by
  rw [insertDevice, bind_ok (ask_eq _ tx)] at h
  split at h
  · cases h
  next new =>
  dsimp only at h
  obtain ⟨owner, tx₁, asked, rest⟩ := bind_eq_ok h
  obtain ⟨read, rfl⟩ := tryAsk_eq_ok asked
  split at rest
  · cases rest
  next known =>
  rw [bind_ok (nextId_eq _ _)] at rest
  obtain ⟨key, tx₂, sealed, rest⟩ := bind_eq_ok rest
  have outcome := sealKey_outcome deviceKeyColumn d.keys.privateKey
    { tx₁ with tables := tx₁.tables.skip "devices" }
  rw [sealed] at outcome
  cases outcome
  cases rest
  obtain ⟨row, rfl⟩ := Option.ne_none_iff_exists'.1 (by simpa using known)
  exact ⟨by simpa using new, ⟨row, read⟩, rfl, key, rfl⟩

theorem insertDevice_issued {d : NewDevice} {device : Device} {tx' : Transaction}
    (h : insertDevice d tx = .ok device tx') (sequence : String) :
    tx'.tables.issued sequence =
      if sequence = "devices" then tx.tables.issued "devices" + 1 else tx.tables.issued sequence := by
  obtain ⟨-, -, rfl, key, rfl⟩ := insertDevice_eq_ok h
  exact Tables.issued_withDevice ..

inductive StreamInserted (c : Contents) (deviceId : UInt64) (uid : String) (tx : Transaction) :
    EStateM.Result StoreError Transaction StreamRow → Prop where
  | taken {id : UInt64} {row : StreamRow} (there : c.streams.get? id = some row)
      (mine : row.uid = uid) : StreamInserted c deviceId uid tx (.error (.duplicate "streams.uid") tx)
  | unknown (new : tx.tables.streamsByUid.get? uid = none)
      (unknown : c.devices.get? deviceId = none) :
      StreamInserted c deviceId uid tx (.error (.reference "streams.device_id") tx)
  | unreadable {row : DeviceRow} (e : StoreError) (there : c.devices.get? deviceId = some row)
      (infinite : ¬ row.IsFinite) : StreamInserted c deviceId uid tx (.error e tx)
  | inserted {id : UInt64} {device : DeviceRow} (next : id = c.lastStream + 1)
      (new : tx.tables.streamsByUid.get? uid = none)
      (known : c.devices.get? deviceId = some device) :
      StreamInserted c deviceId uid tx
        (.ok ⟨id, uid, deviceId⟩ { tx with tables := tx.tables.withStream ⟨id, uid, deviceId⟩ })

/-- A device's row is read as what it is, or not at all. -/
theorem row?_device (h : tx.tables.Holds c) {id : UInt64} {row : DeviceRow}
    (there : c.devices.get? id = some row) :
    (Tables.row? tx.tables.devices id : Except StoreError (Option DeviceRow)) = .ok (some row) ∨
      ¬ row.IsFinite ∧
        ∃ e, (Tables.row? tx.tables.devices id : Except StoreError (Option DeviceRow)) = .error e := by
  rw [h.devices.row?_some there]
  by_cases finite : row.IsFinite
  · rw [DeviceRow.decode_encode finite]
    exact .inl rfl
  · obtain ⟨e, failed⟩ := DeviceRow.decode_encode_infinite finite
    rw [failed]
    exact .inr ⟨finite, e, rfl⟩

/-- A stream is recorded for a device that can be read. -/
theorem insertStream_of_row {deviceId : UInt64} {uid : String} {device : DeviceRow}
    (read : (Tables.row? tx.tables.devices deviceId : Except StoreError (Option DeviceRow)) =
      .ok (some device)) (new : tx.tables.streamsByUid.get? uid = none) :
    insertStream deviceId uid tx = .ok ⟨tx.tables.issued "streams" + 1, uid, deviceId⟩
      { tx with tables :=
        tx.tables.withStream ⟨tx.tables.issued "streams" + 1, uid, deviceId⟩ } := by
  rw [insertStream, bind_ok (ask_eq _ tx), new]
  simp only [Option.isSome_none, Bool.false_eq_true, if_false]
  rw [bind_ok (tryAsk_ok read)]
  simp only [Option.isNone_some, Bool.false_eq_true, if_false]
  rw [bind_ok (nextId_eq _ tx)]
  rfl

theorem insertStream_unreadable {deviceId : UInt64} {uid : String} {e : StoreError}
    (unread : (Tables.row? tx.tables.devices deviceId : Except StoreError (Option DeviceRow)) =
      .error e) (new : tx.tables.streamsByUid.get? uid = none) :
    insertStream deviceId uid tx = .error e tx := by
  rw [insertStream, bind_ok (ask_eq _ tx), new]
  exact bind_error (tryAsk_error unread)

theorem insertStream_outcome (h : tx.tables.Holds c) (deviceId : UInt64) (uid : String) :
    StreamInserted c deviceId uid tx (insertStream deviceId uid tx) := by
  cases taken : tx.tables.streamsByUid.get? uid with
  | some id =>
    obtain ⟨row, there, mine⟩ := (h.streams.found uid id).1 taken
    rw [insertStream, bind_ok (ask_eq _ tx), taken]
    exact .taken there mine
  | none =>
    cases known : c.devices.get? deviceId with
    | none =>
      have read := h.devices.row?_none known
      rw [insertStream, bind_ok (ask_eq _ tx), taken]
      simp only [Option.isSome_none, Bool.false_eq_true, if_false]
      rw [bind_ok (tryAsk_ok read)]
      exact .unknown taken known
    | some device =>
      rcases row?_device h known with read | ⟨infinite, e, unread⟩
      · rw [insertStream_of_row read taken]
        exact .inserted (by rw [h.lastStream]) taken known
      · rw [insertStream_unreadable unread taken]
        exact .unreadable e known infinite

/-- Streams that can be read are read one after the other. -/
theorem mapM_rows {rows : List StreamRow}
    (read : ∀ row ∈ rows, (Tables.row? tx.tables.streams row.id :
      Except StoreError (Option StreamRow)) = .ok (some row)) :
    ((rows.map StreamRow.id).mapM fun id => do
      orFail (.notFound "stream") (← tryAsk fun t => Tables.row? t.streams id) : Step _) tx =
        .ok rows tx := by
  induction rows with
  | nil =>
    rw [List.map_nil, List.mapM_nil]
    rfl
  | cons row rows ih =>
    have first : (do
        orFail (.notFound "stream") (← tryAsk fun t => Tables.row? t.streams row.id) :
          Step StreamRow) tx = .ok row tx := by
      rw [bind_ok (tryAsk_ok (read row List.mem_cons_self))]
      rfl
    rw [List.map_cons, List.mapM_cons, bind_ok first,
      bind_ok (ih fun row hr => read row (List.mem_cons_of_mem _ hr))]
    rfl

theorem streamsOf_of_rows {deviceId : UInt64} {rows : List StreamRow}
    (ids : Tables.members tx.tables.deviceStreams deviceId = rows.map StreamRow.id)
    (read : ∀ row ∈ rows, (Tables.row? tx.tables.streams row.id :
      Except StoreError (Option StreamRow)) = .ok (some row)) :
    streamsOf deviceId tx = .ok rows tx := by
  rw [streamsOf, bind_ok (ask_eq _ tx), ids]
  exact mapM_rows read

/-- Ids of streams that are there are those of a list of rows. -/
theorem exists_rows {ids : List UInt64}
    (there : ∀ id ∈ ids, ∃ row, c.streams.get? id = some row ∧ row.id = id) :
    ∃ rows : List StreamRow, rows.map StreamRow.id = ids ∧
      ∀ row ∈ rows, c.streams.get? row.id = some row := by
  induction ids with
  | nil => exact ⟨[], rfl, by simp⟩
  | cons id ids ih =>
    obtain ⟨row, mine, own⟩ := there id List.mem_cons_self
    obtain ⟨rows, sameIds, mines⟩ := ih fun id hid => there id (List.mem_cons_of_mem _ hid)
    refine ⟨row :: rows, by rw [List.map_cons, own, sameIds], ?_⟩
    rw [List.forall_mem_cons]
    exact ⟨own.symm ▸ mine, mines⟩

theorem streamsOf_eq (h : tx.tables.Holds c) (deviceId : UInt64) :
    ∃ rows, c.StreamsOf deviceId rows ∧ streamsOf deviceId tx = .ok rows tx := by
  have members := fun id => h.deviceStreams.mem_members (o := deviceId) (m := id)
  have there : ∀ id ∈ Tables.members tx.tables.deviceStreams deviceId,
      ∃ row, c.streams.get? id = some row ∧ row.id = id := by
    intro id hid
    obtain ⟨row, mine, -⟩ := (members id).1 hid
    exact ⟨row, mine, h.streams.own id row mine⟩
  obtain ⟨rows, sameIds, mines⟩ := exists_rows there
  have read : ∀ row ∈ rows, (Tables.row? tx.tables.streams row.id :
      Except StoreError (Option StreamRow)) = .ok (some row) := by
    intro row hr
    rw [h.streams.row?_some (mines row hr), row.decode_encode]
    rfl
  have all : ∀ row, row ∈ rows ↔ c.streams.get? row.id = some row ∧ row.deviceId = deviceId := by
    intro row
    constructor
    · intro hr
      have mine := mines row hr
      obtain ⟨row', mine', owned⟩ := (members row.id).1 (sameIds ▸ List.mem_map_of_mem hr)
      rw [mine] at mine'
      exact ⟨mine, Option.some.inj mine' ▸ owned⟩
    · rintro ⟨mine, owned⟩
      have listed := (members row.id).2 ⟨row, mine, owned⟩
      rw [← sameIds] at listed
      obtain ⟨row', hr, same⟩ := List.mem_map.1 listed
      have mine' := mines row' hr
      rw [same, mine] at mine'
      exact Option.some.inj mine' ▸ hr
  refine ⟨rows, ⟨all, ?_⟩, streamsOf_of_rows sameIds.symm read⟩
  rw [sameIds]
  exact Tables.members_ascending _ _

inductive DeviceDeleted (c : Contents) (token publicKey : String) (tx : Transaction) :
    EStateM.Result StoreError Transaction RemovedDevice → Prop where
  /-- The device is reported as missing, unless it is there and cannot be read. -/
  | refused (e : StoreError)
      (none : ∀ id device owner, ¬ c.Grants token publicKey id device owner)
      (reason : e = .notFound "device" ∨
        ∃ id device, c.devices.get? id = some device ∧ ¬ device.IsFinite) :
      DeviceDeleted c token publicKey tx (.error e tx)
  | deleted {id : UInt64} {device : DeviceRow} {owner : UserRow} {streams : List StreamRow}
      (granted : c.Grants token publicKey id device owner) (all : c.StreamsOf id streams) :
      DeviceDeleted c token publicKey tx
        (.ok ⟨id, device.userId, streams⟩
          { tx with tables := tx.tables.withoutDevice id device streams })

/-- A device that can be read goes with its streams, if the key is its owner's. -/
theorem deleteDevice_of_rows {id : UInt64} {device : DeviceRow} {owner : UserRow}
    {streams : List StreamRow} (found : tx.tables.devicesByToken.get? device.token = some id)
    (read : (Tables.row? tx.tables.devices id : Except StoreError (Option DeviceRow)) =
      .ok (some device))
    (readOwner : (Tables.row? tx.tables.users device.userId : Except StoreError (Option UserRow)) =
      .ok (some owner))
    (listed : streamsOf id tx = .ok streams tx) :
    deleteDevice device.token owner.publicKey tx = .ok ⟨id, device.userId, streams⟩
      { tx with tables := tx.tables.withoutDevice id device streams } := by
  rw [deleteDevice, bind_ok (ask_eq _ tx), found, bind_ok (orFail_some _ id tx),
    bind_ok (tryAsk_ok read), bind_ok (orFail_some _ device tx), bind_ok (tryAsk_ok readOwner),
    bind_ok (orFail_some _ owner tx), if_neg (not_not.2 rfl)]
  dsimp only
  rw [bind_ok listed]
  rfl

theorem deleteDevice_unreadable {id : UInt64} {token publicKey : String} {e : StoreError}
    (found : tx.tables.devicesByToken.get? token = some id)
    (unread : (Tables.row? tx.tables.devices id : Except StoreError (Option DeviceRow)) =
      .error e) : deleteDevice token publicKey tx = .error e tx := by
  rw [deleteDevice, bind_ok (ask_eq _ tx), found, bind_ok (orFail_some _ id tx)]
  exact bind_error (tryAsk_error unread)

theorem deleteDevice_outcome (h : tx.tables.Holds c) (token publicKey : String) :
    DeviceDeleted c token publicKey tx (deleteDevice token publicKey tx) := by
  cases found : tx.tables.devicesByToken.get? token with
  | none =>
    rw [deleteDevice, bind_ok (ask_eq _ tx), found]
    refine .refused _ ?_ (.inl rfl)
    intro id device owner granted
    exact h.devices.new_of_index found granted.there granted.token
  | some id =>
    obtain ⟨device, there, rfl⟩ := (h.devices.found token id).1 found
    -- No other device has the token.
    have only : ∀ id' device' owner', c.Grants device.token publicKey id' device' owner' →
        device' = device := by
      intro id' device' owner' granted
      obtain rfl : id' = id := h.devices.id_eq granted.there there granted.token
      exact Option.some.inj (granted.there.symm.trans there)
    rcases row?_device h there with read | ⟨infinite, e, unread⟩
    · obtain ⟨owner, owned⟩ := h.valid.owner id device there
      have readOwner : (Tables.row? tx.tables.users device.userId :
          Except StoreError (Option UserRow)) = .ok (some owner) := by
        rw [h.users.row?_some owned, owner.decode_encode]
        rfl
      by_cases same : owner.publicKey = publicKey
      · obtain ⟨streams, all, listed⟩ := streamsOf_eq h id
        have deleted := deleteDevice_of_rows found read readOwner listed
        rw [same] at deleted
        have finite : device.IsFinite := by
          by_contra infinite
          obtain ⟨e, unread⟩ := DeviceRow.decode_encode_infinite infinite
          rw [h.devices.row?_some there, unread] at read
          contradiction
        show DeviceDeleted c device.token publicKey tx (deleteDevice device.token publicKey tx)
        rw [deleted]
        exact .deleted ⟨there, rfl, finite, owned, same⟩ all
      · rw [deleteDevice, bind_ok (ask_eq _ tx), found, bind_ok (orFail_some _ id tx),
          bind_ok (tryAsk_ok read), bind_ok (orFail_some _ device tx), bind_ok (tryAsk_ok readOwner),
          bind_ok (orFail_some _ owner tx), if_pos same]
        refine .refused _ ?_ (.inl rfl)
        intro id' device' owner' granted
        obtain rfl := only id' device' owner' granted
        obtain rfl : owner' = owner := Option.some.inj (granted.owned.symm.trans owned)
        exact same granted.key
    · rw [deleteDevice_unreadable found unread]
      refine .refused e ?_ (.inr ⟨id, device, there, infinite⟩)
      intro id' device' owner' granted
      obtain rfl := only id' device' owner' granted
      exact infinite granted.finite

theorem countDevices_eq (h : tx.tables.Holds c) (user : UInt64) :
    ∃ n, countDevices user tx = .ok n tx ∧ (n = 0 ↔ c.Alone user) := by
  refine ⟨_, rfl, ?_⟩
  rw [List.length_eq_zero_iff, List.eq_nil_iff_forall_not_mem]
  simp only [h.userDevices.mem_members, not_exists, not_and, Contents.Alone, ne_eq]

inductive UserDeleted (c : Contents) (id : UInt64) (tx : Transaction) :
    EStateM.Result StoreError Transaction Unit → Prop where
  | owns (owns : ¬ c.Alone id) : UserDeleted c id tx (.error (.reference "devices.user_id") tx)
  | unknown (alone : c.Alone id) (unknown : c.users.get? id = none) :
      UserDeleted c id tx (.error (.notFound "user") tx)
  | deleted {row : UserRow} (there : c.users.get? id = some row) (alone : c.Alone id) :
      UserDeleted c id tx (.ok () { tx with tables := tx.tables.withoutUser id row })

theorem deleteUser_outcome (h : tx.tables.Holds c) (id : UInt64) :
    UserDeleted c id tx (deleteUser id tx) := by
  obtain ⟨n, counted, alone⟩ := countDevices_eq h id
  rw [deleteUser, bind_ok counted]
  by_cases some : 0 < n
  · rw [if_pos some]
    apply UserDeleted.owns
    intro none
    have := alone.2 none
    omega
  · rw [if_neg some]
    dsimp only
    have alone := alone.1 (by omega)
    cases there : c.users.get? id with
    | none =>
      rw [bind_ok (tryAsk_ok (h.users.row?_none there))]
      exact .unknown alone there
    | some row =>
      have read : (Tables.row? tx.tables.users id : Except StoreError (Option UserRow)) =
          .ok (Option.some row) := by
        rw [h.users.row?_some there, row.decode_encode]
        rfl
      rw [bind_ok (tryAsk_ok read)]
      exact .deleted there alone

end Transaction
end DeviceRegistry
