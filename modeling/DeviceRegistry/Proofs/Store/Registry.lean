import DeviceRegistry.Proofs.Store.Session

/-! A registry without indexes, relations, stored forms and sealed keys: three finite maps, and the
last ids. Its operations look at all the rows. -/
namespace DeviceRegistry

/-- Users, devices and streams by their ids, and the last ids that were issued. -/
structure Registry where
  users : Table UInt64 User := .empty
  devices : Table UInt64 Device := .empty
  streams : Table UInt64 StreamRow := .empty
  lastUser : UInt64 := 0
  lastDevice : UInt64 := 0
  lastStream : UInt64 := 0

namespace Registry

abbrev Step := EStateM StoreError Registry

def user? (m : Registry) (uid : String) : Option User :=
  m.users.rows.find? fun user => user.uid == uid

def device? (m : Registry) (token : String) : Option Device :=
  m.devices.rows.find? fun device => device.token == token

def stream? (m : Registry) (uid : String) : Option StreamRow :=
  m.streams.rows.find? fun stream => stream.uid == uid

def devicesOf (m : Registry) (user : UInt64) : List Device :=
  (m.devices.filter fun device => device.userId == user).rows

/-- The streams of a device, in the order of their ids. -/
def streamsOf (m : Registry) (device : UInt64) : List StreamRow :=
  (m.streams.filter fun stream => stream.deviceId == device).rows

/-- The user of that uid, with the keys that are known; a new one gets the next id and the given
keys. A key that is too long to be sealed costs an id. -/
def upsertUser (uid : String) (keys : KeyPair) : Step User := fun m =>
  match m.user? uid with
  | some user => .ok user m
  | none =>
    let user : User := ⟨m.lastUser + 1, uid, keys⟩
    if Sealable keys.privateKey then
      .ok user { m with users := m.users.insert user.id user, lastUser := user.id }
    else .error (.cipher .notSealed) { m with lastUser := user.id }

def insertDevice (d : NewDevice) : Step Device := fun m =>
  if (m.device? d.token).isSome then .error (.duplicate "devices.token") m
  else if (m.users.get? d.userId).isNone then .error (.reference "devices.user_id") m
  else
    let device : Device := { d with id := m.lastDevice + 1 }
    if Sealable d.keys.privateKey then
      .ok device { m with devices := m.devices.insert device.id device, lastDevice := device.id }
    else .error (.cipher .notSealed) { m with lastDevice := device.id }

def insertStream (deviceId : UInt64) (uid : String) : Step StreamRow := fun m =>
  if (m.stream? uid).isSome then .error (.duplicate "streams.uid") m
  else if (m.devices.get? deviceId).isNone then .error (.reference "streams.device_id") m
  else
    let stream : StreamRow := ⟨m.lastStream + 1, uid, deviceId⟩
    .ok stream { m with streams := m.streams.insert stream.id stream, lastStream := stream.id }

/-- Takes away the device of that token with its streams, if its owner has the public key. -/
def deleteDevice (token publicKey : String) : Step RemovedDevice := fun m =>
  match m.device? token with
  | none => .error (.notFound "device") m
  | some device =>
    if (m.users.get? device.userId).any fun owner => owner.keys.publicKey == publicKey then
      .ok ⟨device.id, device.userId, m.streamsOf device.id⟩
        { m with
          devices := m.devices.erase device.id
          streams := m.streams.filter fun stream => stream.deviceId != device.id }
    else .error (.notFound "device") m

/-- Takes away a user without devices. -/
def deleteUser (id : UInt64) : Step Unit := fun m =>
  if (m.devicesOf id) ≠ [] then .error (.reference "devices.user_id") m
  else if (m.users.get? id).isNone then .error (.notFound "user") m
  else .ok () { m with users := m.users.erase id }

end Registry

namespace RecordStep

/-- What an operation on records gives when it succeeds. -/
abbrev Answer : RecordStep → Type
  | upsertUser _ _ => User
  | insertDevice _ => Device
  | insertStream _ _ => StreamRow
  | streamsOf _ => List StreamRow
  | deleteDevice _ _ => RemovedDevice
  | countDevices _ => Nat
  | deleteUser _ => Unit

def perform : (step : RecordStep) → Transaction.Step step.Answer
  | upsertUser uid keys => Transaction.upsertUser uid keys
  | insertDevice d => Transaction.insertDevice d
  | insertStream deviceId uid => Transaction.insertStream deviceId uid
  | streamsOf deviceId => Transaction.streamsOf deviceId
  | deleteDevice token publicKey => Transaction.deleteDevice token publicKey
  | countDevices userId => Transaction.countDevices userId
  | deleteUser userId => Transaction.deleteUser userId

theorem apply_eq (step : RecordStep) (tx : Transaction) :
    step.apply tx = stateAfter (step.perform tx) := by
  cases step <;> rfl

def inRegistry : (step : RecordStep) → Registry.Step step.Answer
  | upsertUser uid keys => Registry.upsertUser uid keys
  | insertDevice d => Registry.insertDevice d
  | insertStream deviceId uid => Registry.insertStream deviceId uid
  | streamsOf deviceId => fun m => .ok (m.streamsOf deviceId) m
  | deleteDevice token publicKey => Registry.deleteDevice token publicKey
  | countDevices userId => fun m => .ok (m.devicesOf userId).length m
  | deleteUser userId => Registry.deleteUser userId

end RecordStep
end DeviceRegistry
