import DeviceRegistry.Crypto.KeyPair
import DeviceRegistry.Store.Tables

/-! Operations on records within a transaction. They work on the transaction's own tables; an
operation that fails keeps what it had already written there. -/
namespace DeviceRegistry

/-- A source of random bytes: what each draw gives, and how many were made. -/
structure Entropy where
  draw : Nat → Draw
  used : Nat := 0
deriving Inhabited

structure Transaction where
  tables : Tables
  cipher : ColumnCipher
  entropy : Entropy

structure User where
  id : UInt64
  uid : String
  keys : KeyPair
deriving DecidableEq, Inhabited

structure NewDevice where
  token : String
  userId : UInt64
  keys : KeyPair
  location : Location
  disposition : Disposition
deriving DecidableEq, Inhabited

structure Device extends NewDevice where
  id : UInt64
deriving DecidableEq, Inhabited

structure RemovedDevice where
  deviceId : UInt64
  userId : UInt64
  streams : List StreamRow
deriving DecidableEq, Inhabited

namespace Transaction

/-- An operation on the records of a transaction. -/
abbrev Step := EStateM StoreError Transaction

def userKeyColumn : String := "users.private_key"
def deviceKeyColumn : String := "devices.private_key"

/-- Reads something off the tables. -/
def ask {α : Type} (f : Tables → α) : Step α := return f (← get).tables

/-- Reads something off the tables that may be unreadable. -/
def tryAsk {α : Type} (f : Tables → Except StoreError α) : Step α := do
  match f (← get).tables with
  | .ok a => return a
  | .error e => throw e

def change (f : Tables → Tables) : Step Unit := modify fun tx => { tx with tables := f tx.tables }

/-- What is there, or else the error. -/
def orFail {α : Type} (e : StoreError) : Option α → Step α
  | some a => return a
  | none => throw e

def nextId (sequence : String) : Step UInt64 := do
  let id := (← ask (·.issued sequence)) + 1
  change fun t => { t with sequences := t.sequences.insert sequence id }
  return id

/-- Seals a value for a column with the next draw. -/
def sealKey (column plain : String) : Step Bytes := do
  let tx ← get
  set { tx with entropy.used := tx.entropy.used + 1 }
  match tx.cipher.encryptText column plain (tx.entropy.draw tx.entropy.used) with
  | .ok b => return b
  | .error e => throw (.cipher e)

def openKey (column : String) (value : Bytes) : Step String := do
  match (← get).cipher.decryptText column value with
  | .ok s => return s
  | .error e => throw (.cipher e)

/-- The user of that uid. A new one gets the key pair; one that is there keeps its own, and its row
is written again. -/
def upsertUser (uid : String) (keys : KeyPair) : Step User := do
  match ← ask (·.usersByUid.get? uid) with
  | some id =>
    let row : UserRow ← orFail (.notFound "user") (← tryAsk fun t => Tables.row? t.users id)
    change fun t => { t with users := Tables.withRow t.users id row }
    return ⟨id, row.uid, ⟨← openKey userKeyColumn row.privateKey, row.publicKey⟩⟩
  | none =>
    let id ← nextId "users"
    let row : UserRow := ⟨id, uid, ← sealKey userKeyColumn keys.privateKey, keys.publicKey⟩
    change fun t => { t with
      users := Tables.withRow t.users id row
      usersByUid := t.usersByUid.insert uid id }
    return ⟨id, uid, keys⟩

/-- Inserts a device of a known user under a new token. -/
def insertDevice (d : NewDevice) : Step Device := do
  if (← ask (·.devicesByToken.get? d.token)).isSome then throw (.duplicate "devices.token")
  let owner : Option UserRow ← tryAsk fun t => Tables.row? t.users d.userId
  if owner.isNone then throw (.reference "devices.user_id")
  let id ← nextId "devices"
  let key ← sealKey deviceKeyColumn d.keys.privateKey
  let row : DeviceRow :=
    ⟨id, d.token, d.userId, key, d.keys.publicKey, d.location, d.disposition⟩
  change fun t => { t with
    devices := Tables.withRow t.devices id row
    devicesByToken := t.devicesByToken.insert d.token id
    userDevices := t.userDevices.insert ⟨d.userId, id⟩ () }
  return { d with id }

/-- Records a stream of a known device under a new uid. -/
def insertStream (deviceId : UInt64) (uid : String) : Step StreamRow := do
  if (← ask (·.streamsByUid.get? uid)).isSome then throw (.duplicate "streams.uid")
  let device : Option DeviceRow ← tryAsk fun t => Tables.row? t.devices deviceId
  if device.isNone then throw (.reference "streams.device_id")
  let id ← nextId "streams"
  let row : StreamRow := ⟨id, uid, deviceId⟩
  change fun t => { t with
    streams := Tables.withRow t.streams id row
    streamsByUid := t.streamsByUid.insert uid id
    deviceStreams := t.deviceStreams.insert ⟨deviceId, id⟩ () }
  return row

/-- The streams of a device, by id. -/
def streamsOf (deviceId : UInt64) : Step (List StreamRow) := do
  (← ask fun t => Tables.members t.deviceStreams deviceId).mapM fun id => do
    orFail (.notFound "stream") (← tryAsk fun t => Tables.row? t.streams id)

def withoutStream (t : Tables) (s : StreamRow) (deviceId : UInt64) : Tables :=
  { t with
    streams := t.streams.erase s.id
    streamsByUid := t.streamsByUid.erase s.uid
    deviceStreams := t.deviceStreams.erase ⟨deviceId, s.id⟩ }

/-- Deletes the device of a token, with its streams, if its owner has the public key. A device of
somebody else is reported as one that is not there. -/
def deleteDevice (token publicKey : String) : Step RemovedDevice := do
  let missing : StoreError := .notFound "device"
  let id ← orFail missing (← ask (·.devicesByToken.get? token))
  let device : DeviceRow ← orFail missing (← tryAsk fun t => Tables.row? t.devices id)
  let owner : UserRow ← orFail missing (← tryAsk fun t => Tables.row? t.users device.userId)
  if owner.publicKey ≠ publicKey then throw missing
  let streams ← streamsOf id
  change fun t => streams.foldl (fun t s => withoutStream t s id) t
  change fun t => { t with
    devices := t.devices.erase id
    devicesByToken := t.devicesByToken.erase token
    userDevices := t.userDevices.erase ⟨device.userId, id⟩ }
  return ⟨id, device.userId, streams⟩

def countDevices (userId : UInt64) : Step Nat :=
  ask fun t => (Tables.members t.userDevices userId).length

def deleteUser (userId : UInt64) : Step Unit := do
  if 0 < (← countDevices userId) then throw (.reference "devices.user_id")
  let row : UserRow ← orFail (.notFound "user") (← tryAsk fun t => Tables.row? t.users userId)
  change fun t => { t with
    users := t.users.erase userId
    usersByUid := t.usersByUid.erase row.uid }

end Transaction
end DeviceRegistry
