import DeviceRegistry.Proofs.Stateful
import DeviceRegistry.Proofs.Store.Changes
import DeviceRegistry.Registrar.Basic

/-! The three transactions of the registrar, on a store that holds certain contents. -/
namespace DeviceRegistry
open StoredRow

namespace Registrar

variable {s : Store} {c : Contents}

theorem attempting_ok {σ α : Type} {attempt : Attempt} {op : EStateM StoreError σ α} {s t : σ}
    {a : α} (h : op s = .ok a t) : attempting attempt op s = .ok a t := by
  rw [attempting, h]

theorem attempting_error {σ α : Type} {attempt : Attempt} {op : EStateM StoreError σ α} {s t : σ}
    {e : StoreError} (h : op s = .error e t) :
    attempting attempt op s = .error (.failed attempt (.store e)) t := by
  rw [attempting, h]

theorem transaction_ok {α : Type} {commit : Attempt} {ops : EStateM RegistrationError Transaction α}
    {tx : Transaction} {a : α} (h : ops s.begin = .ok a tx) :
    (transaction commit ops : EStateM RegistrationError Store α) s = .ok a (s.commit tx) := by
  have begun : attempting .startTransaction (Backend.begin : EStateM StoreError Store Transaction) s =
      .ok s.begin s := rfl
  rw [transaction, bind_ok begun, h]
  rfl

theorem transaction_error {α : Type} {commit : Attempt}
    {ops : EStateM RegistrationError Transaction α} {tx : Transaction} {e : RegistrationError}
    (h : ops s.begin = .error e tx) :
    (transaction commit ops : EStateM RegistrationError Store α) s = .error e (s.abandon tx) := by
  have begun : attempting .startTransaction (Backend.begin : EStateM StoreError Store Transaction) s =
      .ok s.begin s := rfl
  rw [transaction, bind_ok begun, h]
  rfl

/-- A transaction that fails leaves the tables alone. -/
theorem transaction_eq_error {α : Type} {commit : Attempt}
    {ops : EStateM RegistrationError Transaction α} {e : RegistrationError} {t : Store}
    (h : (transaction commit ops : EStateM RegistrationError Store α) s = .error e t) :
    t.tables = s.tables := by
  cases run : ops s.begin with
  | ok a tx =>
    rw [transaction_ok run] at h
    contradiction
  | error e tx =>
    rw [transaction_error run] at h
    cases h
    rfl

theorem attempting_eq_ok {σ α : Type} {attempt : Attempt} {op : EStateM StoreError σ α} {s t : σ}
    {a : α} (h : attempting attempt op s = .ok a t) : op s = .ok a t := by
  cases done : op s with
  | ok b t' =>
    rw [attempting_ok done] at h
    cases h
    rfl
  | error e t' =>
    rw [attempting_error done] at h
    cases h

/-- After a transaction the tables are as before, or as its operations left them. -/
theorem transaction_tables {α : Type} {commit : Attempt}
    {ops : EStateM RegistrationError Transaction α} {keeps : Tables → Prop} (same : keeps s.tables)
    (done : ∀ a tx, ops s.begin = .ok a tx → keeps tx.tables) :
    keeps (stateAfter (transaction (S := Store) commit ops s)).tables := by
  cases run : ops s.begin with
  | ok a tx =>
    rw [transaction_ok run]
    exact done a tx run
  | error e tx =>
    rw [transaction_error run]
    exact same

/-- What stands in the way of a stream, and the error that it causes. -/
inductive StreamObstacle (c : Contents) (device : UInt64) (uid : String) :
    RegistrationError → Prop where
  | taken {id : UInt64} {row : StreamRow} (there : c.streams.get? id = some row)
      (mine : row.uid = uid) :
      StreamObstacle c device uid (.failed .recordStream (.store (.duplicate "streams.uid")))
  | unknown (unknown : c.devices.get? device = none) :
      StreamObstacle c device uid (.failed .recordStream (.store (.reference "streams.device_id")))
  | unreadable {row : DeviceRow} (e : StoreError) (there : c.devices.get? device = some row)
      (infinite : ¬ row.IsFinite) : StreamObstacle c device uid (.failed .recordStream (.store e))

inductive Recorded (c : Contents) (device : UInt64) (uid : String) (s : Store) :
    EStateM.Result RegistrationError Store Unit → Prop where
  | refused (e : RegistrationError) (obstacle : StreamObstacle c device uid e) :
      Recorded c device uid s (.error e s)
  | recorded {stream : StreamRow} {c' : Contents} {tables : Tables} (mine : stream.uid = uid)
      (attached : c.Attached device stream c') (held : tables.Holds c')
      (made : tables = s.tables.withStream stream) :
      Recorded c device uid s (.ok () { s with tables })

theorem recordStream_outcome (h : s.tables.Holds c) (device : UInt64) (uid : String)
    (spare : Spare s.tables (stateAfter (recordStream (S := Store) device uid s)).tables) :
    Recorded c device uid s (recordStream device uid s) := by
  have outcome := @Transaction.insertStream_outcome s.begin c h device uid
  generalize inserted : Transaction.insertStream device uid s.begin = result at outcome
  have refused : ∀ e, result = .error e s.begin →
      StreamObstacle c device uid (.failed .recordStream (.store e)) →
      Recorded c device uid s (recordStream device uid s) := by
    rintro e rfl obstacle
    have failed : recordStream (S := Store) device uid s = .error _ _ :=
      transaction_error (bind_error (attempting_error inserted))
    rw [failed]
    exact .refused _ obstacle
  cases outcome with
  | taken there mine => exact refused _ rfl (.taken there mine)
  | unknown new unknown => exact refused _ rfl (.unknown unknown)
  | unreadable e there infinite => exact refused _ rfl (.unreadable e there infinite)
  | @inserted id row next new known =>
    have done : recordStream (S := Store) device uid s = .ok _ _ :=
      transaction_ok (bind_ok (attempting_ok inserted))
    rw [done] at spare ⊢
    have room : Room c.lastStream := by
      rw [← h.lastStream]
      apply spare "streams"
      show (s.tables.withStream _).issued "streams" ≠ _
      rw [Tables.issued_withStream, if_pos rfl, h.lastStream, next]
      exact add_one_ne _
    have held : (s.tables.withStream ⟨id, uid, device⟩).Holds _ := h.withStream room next new known
    have unused : ∀ id row, c.streams.get? id = some row → row.uid ≠ uid :=
      fun _ _ there => h.streams.new_of_index new there
    exact .recorded rfl ⟨rfl, next, room, rfl, ⟨_, known⟩, unused⟩ held rfl

theorem Recorded.of_eq {device : UInt64} {uid : String}
    {result : EStateM.Result RegistrationError Store Unit} (h : s.tables.Holds c)
    (done : recordStream device uid s = result) (spare : Spare s.tables (stateAfter result).tables) :
    Recorded c device uid s result := by
  subst done
  exact recordStream_outcome h device uid spare

theorem recordStream_onward (h : s.tables.Holds c) (device : UInt64) (uid : String) :
    Onward s.tables (stateAfter (recordStream (S := Store) device uid s)).tables := by
  apply transaction_tables (.refl _)
  intro _ tx done
  obtain ⟨row, tx', attempted, rest⟩ := bind_eq_ok done
  cases rest
  have inserted : Transaction.insertStream device uid s.begin = .ok row tx :=
    attempting_eq_ok attempted
  have outcome := @Transaction.insertStream_outcome s.begin c h device uid
  rw [inserted] at outcome
  cases outcome with
  | inserted next =>
    refine .of_issued "streams" fun q => (Tables.issued_withStream ..).trans ?_
    rw [next, ← h.lastStream]
    rfl

inductive Removes (c : Contents) (token publicKey : String) (s : Store) :
    EStateM.Result RegistrationError Store RemovedDevice → Prop where
  /-- The device is reported as missing, unless it is there and cannot be read. -/
  | refused (e : RegistrationError)
      (none : ∀ id device owner, ¬ c.Grants token publicKey id device owner)
      (reason : e = .failed .deleteDevice (.store (.notFound "device")) ∨
        ∃ id device, c.devices.get? id = some device ∧ ¬ device.IsFinite) :
      Removes c token publicKey s (.error e s)
  | removed {id : UInt64} {device : DeviceRow} {owner : UserRow} {streams : List StreamRow}
      {c' : Contents} {tables : Tables} (granted : c.Grants token publicKey id device owner)
      (all : c.StreamsOf id streams) (removed : c.Removed id device.userId c')
      (held : tables.Holds c') (sequences : tables.sequences = s.tables.sequences)
      (metadata : tables.metadata = s.tables.metadata) :
      Removes c token publicKey s (.ok ⟨id, device.userId, streams⟩ { s with tables })

theorem removeDevice_outcome (h : s.tables.Holds c) (token publicKey : String) :
    Removes c token publicKey s (removeDevice token publicKey s) := by
  have outcome := @Transaction.deleteDevice_outcome s.begin c h token publicKey
  generalize deleted : Transaction.deleteDevice token publicKey s.begin = result at outcome
  cases outcome with
  | refused e none reason =>
    have failed : removeDevice (S := Store) token publicKey s = .error _ _ :=
      transaction_error (bind_error (attempting_error deleted))
    rw [failed]
    refine .refused _ none (reason.imp_left ?_)
    rintro rfl
    rfl
  | @deleted id device owner streams granted all =>
    have held := h.withoutDevice granted.there all
    obtain ⟨sequences, metadata⟩ := s.tables.rest_withoutDevice id device streams
    obtain ⟨tx, sameTables, sameEntropy, deleted⟩ :
        ∃ tx, tx.tables = s.tables.withoutDevice id device streams ∧ tx.entropy = s.entropy ∧
          Transaction.deleteDevice token publicKey s.begin = .ok ⟨id, device.userId, streams⟩ tx :=
      ⟨_, rfl, rfl, deleted⟩
    rw [← sameTables] at held sequences metadata
    obtain ⟨n, counted, alone⟩ := Transaction.countDevices_eq held device.userId
    by_cases last : n = 0
    · have outcome := Transaction.deleteUser_outcome held device.userId
      generalize left : Transaction.deleteUser device.userId tx = result at outcome
      cases outcome with
      | owns owns => exact absurd (alone.1 last) owns
      | unknown alone unknown =>
        have gone : c.users.get? device.userId = none := unknown
        rw [granted.owned] at gone
        contradiction
      | @deleted user there alone =>
        have done : removeDevice (S := Store) token publicKey s =
            .ok ⟨id, device.userId, streams⟩
              (s.commit { tx with tables := tx.tables.withoutUser device.userId user }) := by
          apply transaction_ok
          apply (bind_ok (attempting_ok deleted)).trans
          apply (bind_ok (attempting_ok counted)).trans
          dsimp only
          rw [if_pos last]
          exact bind_ok (attempting_ok left)
        rw [done, Store.commit, sameEntropy]
        exact .removed granted all (.last alone) (held.withoutUser there alone) sequences metadata
    · have done : removeDevice (S := Store) token publicKey s =
          .ok ⟨id, device.userId, streams⟩ (s.commit tx) := by
        apply transaction_ok
        apply (bind_ok (attempting_ok deleted)).trans
        apply (bind_ok (attempting_ok counted)).trans
        dsimp only
        rw [if_neg last]
        rfl
      rw [done, Store.commit, sameEntropy]
      exact .removed granted all (.shared (mt alone.2 last)) held sequences metadata

/-- What stands in the way of a registration, and the error that it causes: the owner's key does not
open, the token is taken, or a new key cannot be sealed. -/
inductive RegisterObstacle (c : Contents) (r : ClaimRequest) (userKeys deviceKeys : KeyPair)
    (s : Store) : RegistrationError → Prop where
  | locked {id : UInt64} {row : UserRow} {e : CipherError} (there : c.users.get? id = some row)
      (mine : row.uid = r.userUid)
      (closed : s.cipher.decryptText Transaction.userKeyColumn row.privateKey = .error e) :
      RegisterObstacle c r userKeys deviceKeys s (.failed .upsertUser (.store (.cipher e)))
  | taken {id : UInt64} {row : DeviceRow} (there : c.devices.get? id = some row)
      (mine : row.token = r.deviceToken) :
      RegisterObstacle c r userKeys deviceKeys s
        (.failed .insertDevice (.store (.duplicate "devices.token")))
  | unsealed {attempt : Attempt} {column : String} {keys : KeyPair} {entropy : Entropy}
      {e : CipherError} (given : keys = userKeys ∨ keys = deviceKeys)
      (later : s.entropy.Later entropy)
      (unsealed : s.cipher.encryptText column keys.privateKey (entropy.draw entropy.used) =
        .error e) :
      RegisterObstacle c r userKeys deviceKeys s (.failed attempt (.store (.cipher e)))

/-- A row for a device as a claim asks for it. -/
structure Describes (r : ClaimRequest) (location : Location) (keys : KeyPair) (cipher : ColumnCipher)
    (device : DeviceRow) : Prop where
  token : device.token = r.deviceToken
  place : device.location = location
  disposition : device.disposition = r.disposition
  publicKey : device.publicKey = keys.publicKey
  opens : cipher.decryptText Transaction.deviceKeyColumn device.privateKey = .ok keys.privateKey

/-- The owner of a device that is registered, the owner's private key, and the tables once the owner
is in them. Only a new one gets the new keys. -/
inductive Owner (c : Contents) (t : Tables) (keys : KeyPair) (user : UserRow) :
    String → Tables → Prop where
  | known {key : String} (there : c.users.get? user.id = some user) : Owner c t keys user key t
  | new (new : t.usersByUid.get? user.uid = none) (next : user.id = c.lastUser + 1)
      (given : user.publicKey = keys.publicKey) :
      Owner c t keys user keys.privateKey (t.withUser user)

inductive Registers (c : Contents) (r : ClaimRequest) (location : Location)
    (userKeys deviceKeys : KeyPair) (s : Store) :
    EStateM.Result RegistrationError Store Registered → Prop where
  | refused (e : RegistrationError) (entropy : Entropy)
      (obstacle : RegisterObstacle c r userKeys deviceKeys s e) :
      Registers c r location userKeys deviceKeys s (.error e { s with entropy })
  | registered {user : UserRow} {device : DeviceRow} {key : String} {c' : Contents} {tables : Tables}
      {entropy : Entropy} (later : s.entropy.Later entropy) (uid : user.uid = r.userUid)
      (owner : Owner c s.tables userKeys user key tables)
      (opens : s.cipher.decryptText Transaction.userKeyColumn user.privateKey = .ok key)
      (described : Describes r location deviceKeys s.cipher device)
      (enrolled : c.Enrolled user device c') (held : (tables.withDevice device).Holds c') :
      Registers c r location userKeys deviceKeys s
        (.ok ⟨⟨user.id, r.userUid, ⟨key, user.publicKey⟩⟩,
          ⟨⟨r.deviceToken, user.id, deviceKeys, location, r.disposition⟩, device.id⟩⟩
          { s with tables := tables.withDevice device, entropy })

variable {r : ClaimRequest} {location : Location} {userKeys deviceKeys : KeyPair}

/-- What a device is registered with. -/
def newDevice (r : ClaimRequest) (location : Location) (owner : UInt64) (deviceKeys : KeyPair) :
    NewDevice :=
  ⟨r.deviceToken, owner, deviceKeys, location, r.disposition⟩

/-- The transaction is given up if the device is not inserted. -/
theorem register_of_refused {tx tx' : Transaction} {user : User} {e : StoreError}
    (upserted : Transaction.upsertUser r.userUid userKeys s.begin = .ok user tx)
    (refused : Transaction.insertDevice (newDevice r location user.id deviceKeys) tx = .error e tx')
    (obstacle : RegisterObstacle c r userKeys deviceKeys s (.failed .insertDevice (.store e))) :
    Registers c r location userKeys deviceKeys s (register r location userKeys deviceKeys s) := by
  have failed : register (S := Store) r location userKeys deviceKeys s = .error _ _ :=
    transaction_error ((bind_ok (attempting_ok upserted)).trans
      (bind_error (attempting_error refused)))
  rw [failed]
  exact .refused _ _ obstacle

/-- Once the owner is known, the device is inserted or the transaction is given up. -/
theorem register_of_joined {tx : Transaction} {c₁ : Contents} {user : UserRow} {key : String}
    (upserted : Transaction.upsertUser r.userUid userKeys s.begin =
      .ok ⟨user.id, r.userUid, ⟨key, user.publicKey⟩⟩ tx)
    (h : tx.tables.Holds c₁) (joined : c.Joined user c₁) (uid : user.uid = r.userUid)
    (owner : Owner c s.tables userKeys user key tx.tables)
    (opens : s.cipher.decryptText Transaction.userKeyColumn user.privateKey = .ok key)
    (issued : tx.tables.issued "devices" = s.tables.issued "devices") (same : tx.cipher = s.cipher)
    (later : s.entropy.Later tx.entropy)
    (spare : Spare s.tables
      (stateAfter (register (S := Store) r location userKeys deviceKeys s)).tables) :
    Registers c r location userKeys deviceKeys s (register r location userKeys deviceKeys s) := by
  have outcome := Transaction.insertDevice_outcome h (newDevice r location user.id deviceKeys)
  generalize inserted : Transaction.insertDevice (newDevice r location user.id deviceKeys) tx =
    result at outcome
  cases outcome with
  | taken there mine =>
    rw [joined.devices] at there
    exact register_of_refused upserted inserted (.taken there mine)
  | unowned new unknown =>
    have known : c₁.users.get? user.id = none := unknown
    rw [joined.get?] at known
    contradiction
  | unsealed new known unsealed =>
    rw [same] at unsealed
    exact register_of_refused upserted inserted (.unsealed (.inr rfl) later unsealed)
  | @inserted id sealed owner' next new known opens' =>
    have done : register (S := Store) r location userKeys deviceKeys s = .ok _ _ :=
      transaction_ok ((bind_ok (attempting_ok upserted)).trans (bind_ok (attempting_ok inserted)))
    rw [done] at spare ⊢
    -- The device was inserted, so its id was issued, and then there was room for it.
    have room : Room c₁.lastDevice := by
      rw [← h.lastDevice, issued]
      apply spare "devices"
      show (tx.tables.withDevice _).issued "devices" ≠ _
      rw [Tables.issued_withDevice, if_pos rfl, ← issued, h.lastDevice]
      exact next ▸ add_one_ne _
    have held : (tx.tables.withDevice ((newDevice r location user.id deviceKeys).row id sealed)).Holds
        (c₁.withDevice ((newDevice r location user.id deviceKeys).row id sealed)) :=
      h.withDevice room next new known
    rw [same] at opens'
    refine .registered (later.trans tx.entropy.later_next) uid owner opens
      ⟨rfl, rfl, rfl, rfl, opens'⟩ ⟨⟨c₁, joined, rfl⟩, ?_, ?_, rfl, ?_⟩ held
    · rw [← joined.lastDevice]
      exact next
    · rw [← joined.lastDevice]
      exact room
    · rw [← joined.devices]
      intro id row there
      exact h.devices.new_of_index new there

/-- Without room for the id of a new owner the transaction is given up. Had the device been inserted
behind the owner, the owner's id would have been issued for good. -/
theorem register_of_full (h : s.tables.Holds c) {tx : Transaction} {user : UserRow} {key : String}
    (upserted : Transaction.upsertUser r.userUid userKeys s.begin =
      .ok ⟨user.id, r.userUid, ⟨key, user.publicKey⟩⟩ tx)
    (made : tx.tables = s.tables.withUser user) (next : user.id = c.lastUser + 1)
    (new : s.tables.usersByUid.get? user.uid = none) (full : ¬ Room c.lastUser)
    (same : tx.cipher = s.cipher) (later : s.entropy.Later tx.entropy)
    (spare : Spare s.tables
      (stateAfter (register (S := Store) r location userKeys deviceKeys s)).tables) :
    Registers c r location userKeys deviceKeys s (register r location userKeys deviceKeys s) := by
  have upserting := @attempting_ok _ _ .upsertUser _ _ _ _ upserted
  have fresh : c.users.get? user.id = none := next ▸ h.valid.users.next_new
  have users : Shelf tx.tables.users tx.tables.usersByUid (c.withUser user).users := by
    rw [made]
    exact h.users.insert fresh new
  have devices : Shelf tx.tables.devices tx.tables.devicesByToken (c.withUser user).devices := by
    rw [made]
    exact h.devices
  have lastDevice : tx.tables.issued "devices" = (c.withUser user).lastDevice := by
    rw [made, Tables.issued_withUser, if_neg (by decide)]
    exact h.lastDevice
  have outcome := Transaction.insertDevice_of_shelves users devices lastDevice
    (newDevice r location user.id deviceKeys)
  generalize inserted : Transaction.insertDevice (newDevice r location user.id deviceKeys) tx =
    result at outcome
  cases outcome with
  | taken there mine => exact register_of_refused upserted inserted (.taken there mine)
  | unowned new unknown =>
    have known : (c.withUser user).users.get? user.id = none := unknown
    rw [Contents.withUser, Table.get?_insert_self] at known
    contradiction
  | unsealed new known unsealed =>
    rw [same] at unsealed
    exact register_of_refused upserted inserted (.unsealed (.inr rfl) later unsealed)
  | inserted =>
    have done : register (S := Store) r location userKeys deviceKeys s = .ok _ (s.commit _) :=
      transaction_ok ((bind_ok upserting).trans (bind_ok (attempting_ok inserted)))
    rw [done] at spare
    refine absurd ?_ full
    rw [← h.lastUser]
    apply spare "users"
    show (tx.tables.withDevice _).issued "users" ≠ _
    rw [Tables.issued_withDevice, if_neg (by decide), made, Tables.issued_withUser, if_pos rfl, next,
      h.lastUser]
    exact add_one_ne _

theorem register_outcome (h : s.tables.Holds c)
    (spare : Spare s.tables
      (stateAfter (register (S := Store) r location userKeys deviceKeys s)).tables) :
    Registers c r location userKeys deviceKeys s (register r location userKeys deviceKeys s) := by
  have outcome := @Transaction.upsertUser_outcome s.begin c h r.userUid userKeys
  generalize upserted : Transaction.upsertUser r.userUid userKeys s.begin = result at outcome
  have refused : ∀ e tx, result = .error e tx →
      RegisterObstacle c r userKeys deviceKeys s (.failed .upsertUser (.store e)) →
      Registers c r location userKeys deviceKeys s (register r location userKeys deviceKeys s) := by
    rintro e tx rfl obstacle
    have failed : register (S := Store) r location userKeys deviceKeys s = .error _ _ :=
      transaction_error (bind_error (attempting_error upserted))
    rw [failed]
    exact .refused _ _ obstacle
  cases outcome with
  | locked there mine closed => exact refused _ _ rfl (.locked there mine closed)
  | unsealed new unsealed =>
    exact refused _ _ rfl (.unsealed (.inl rfl) (.refl _) unsealed)
  | @known id user key there mine opens =>
    obtain rfl : user.id = id := h.users.own id user there
    exact register_of_joined upserted h (.known there) mine (.known there) opens rfl rfl (.refl _)
      spare
  | @new user new next mine given opens =>
    obtain ⟨tx, sameTables, sameCipher, sameEntropy, upserted⟩ :
        ∃ tx, tx.tables = s.tables.withUser user ∧ tx.cipher = s.cipher ∧
          tx.entropy = s.entropy.next ∧ Transaction.upsertUser r.userUid userKeys s.begin =
            .ok ⟨user.id, r.userUid, ⟨userKeys.privateKey, user.publicKey⟩⟩ tx :=
      ⟨_, rfl, rfl, rfl, by rw [given]; exact upserted⟩
    have later : s.entropy.Later tx.entropy := sameEntropy ▸ s.entropy.later_next
    by_cases room : Room c.lastUser
    · have held := h.withUser room next new
      rw [← sameTables] at held
      refine register_of_joined upserted held (.new next room) mine ?_ opens ?_ sameCipher later spare
      · rw [sameTables]
        exact .new new next given
      · rw [sameTables, Tables.issued_withUser, if_neg (by decide)]
    · exact register_of_full h upserted sameTables next new room sameCipher later spare

theorem Registers.of_eq {result : EStateM.Result RegistrationError Store Registered}
    (h : s.tables.Holds c) (done : register r location userKeys deviceKeys s = result)
    (spare : Spare s.tables (stateAfter result).tables) :
    Registers c r location userKeys deviceKeys s result := by
  subst done
  exact register_outcome h spare

theorem register_onward (h : s.tables.Holds c) (r : ClaimRequest) (location : Location)
    (userKeys deviceKeys : KeyPair) :
    Onward s.tables
      (stateAfter (register (S := Store) r location userKeys deviceKeys s)).tables := by
  apply transaction_tables (.refl _)
  intro _ tx done
  obtain ⟨user, tx₁, attempted, rest⟩ := bind_eq_ok done
  obtain ⟨device, tx₂, attempted', rest⟩ := bind_eq_ok rest
  cases rest
  have upserted : Transaction.upsertUser r.userUid userKeys s.begin = .ok user tx₁ :=
    attempting_eq_ok attempted
  have inserted : Transaction.insertDevice (newDevice r location user.id deviceKeys) tx₁ =
      .ok device tx := attempting_eq_ok attempted'
  have outcome := @Transaction.upsertUser_outcome s.begin c h r.userUid userKeys
  rw [upserted] at outcome
  cases outcome with
  | known =>
    exact .of_issued "devices" (Transaction.insertDevice_issued inserted)
  | @new row new next mine given opens =>
    intro q
    rw [Transaction.insertDevice_issued inserted, Tables.issued_withUser, Tables.issued_withUser]
    by_cases device : q = "devices"
    · rw [if_pos device, if_neg (by decide), device]
      exact .inr rfl
    · rw [if_neg device]
      by_cases user : q = "users"
      · rw [if_pos user, next, user, h.lastUser]
        exact .inr rfl
      · rw [if_neg user]
        exact .inl rfl

end Registrar
end DeviceRegistry
