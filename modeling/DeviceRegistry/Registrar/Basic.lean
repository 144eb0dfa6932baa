import DeviceRegistry.Encoder.Flow
import DeviceRegistry.Registrar.Notice
import DeviceRegistry.Registrar.Validation
import DeviceRegistry.Store.Basic

/-! The registrar: what it works with, and its three transactions. Registering and recording
belong to a claim, removing to a revoke and to the undoing of a claim. -/
namespace DeviceRegistry

/-- A source of key pairs: what each call gives, and how many were made. -/
structure KeySource where
  pair : Nat → Except KeyError KeyPair
  used : Nat := 0
deriving Inhabited

structure Registrar (S : Type) where
  store : S
  keys : KeySource
  metrics : Metrics := {}
  /-- Whether each request is put on record. -/
  verbose : Bool := false
  /-- The record, oldest first. -/
  log : List Notice := []

/-- What a transaction tells about the device that it registered. -/
structure Registered where
  user : User
  device : Device
deriving DecidableEq, Inhabited

namespace Registrar

variable {S T : Type} [Records T] [Backend S T] {σ α : Type}

/-- A store operation of which a failure tells what was attempted. -/
def attempting (attempt : Attempt) (op : EStateM StoreError σ α) :
    EStateM RegistrationError σ α := fun s =>
  match op s with
  | .ok a s => .ok a s
  | .error e s => .error (.failed attempt (.store e)) s

/-- Runs operations in one transaction. It is committed when they all succeed, and given up when
one fails. -/
def transaction (commit : Attempt) (ops : EStateM RegistrationError T α) :
    EStateM RegistrationError S α := do
  let tx ← attempting .startTransaction Backend.begin
  match ops tx with
  | .ok a tx =>
    attempting commit (Backend.commit tx)
    return a
  | .error e tx =>
    modify (Backend.abandon tx)
    throw e

/-- Registers a device, and its owner unless the owner is known already. -/
def register (r : ClaimRequest) (location : Location) (userKeys deviceKeys : KeyPair) :
    EStateM RegistrationError S Registered :=
  transaction .commitClaim do
    let user ← attempting .upsertUser (Records.upsertUser r.userUid userKeys)
    let device ← attempting .insertDevice <| Records.insertDevice
      { token := r.deviceToken, userId := user.id, keys := deviceKeys, location,
        disposition := r.disposition }
    return ⟨user, device⟩

def recordStream (deviceId : UInt64) (uid : String) : EStateM RegistrationError S Unit :=
  transaction .commitStream do
    let _ ← attempting .recordStream (Records.insertStream deviceId uid)

/-- Removes a device with its streams, and its owner with the last device. -/
def removeDevice (token publicKey : String) : EStateM RegistrationError S RemovedDevice :=
  transaction .commitRevoke do
    let removed ← attempting .deleteDevice (Records.deleteDevice token publicKey)
    let remaining ← attempting .countDevices (Records.countDevices removed.userId)
    if remaining = 0 then attempting .deleteUser (Records.deleteUser removed.userId)
    return removed

/-- Work of the registrar that may call the encoder. -/
abbrev Work (S α : Type) := ExceptT RegistrationError (Flow (Registrar S)) α

/-- Work on the store alone, in one piece. Others may have had the store before. -/
def onStore (op : EStateM RegistrationError S α) : Work S α := do
  (Flow.pause : Flow (Registrar S) Unit)
  Flow.ofStep fun r =>
    match op r.store with
    | .ok a store => .ok a { r with store }
    | .error e store => .error e { r with store }

def note (n : Notice) : Work S Unit := modify fun r => { r with log := r.log ++ [n] }

/-- Puts a notice on record if the registrar is talkative. -/
def noteIfVerbose (n : Notice) : Work S Unit := do
  if (← get).verbose then note n

def nextKeys (attempt : Attempt) : Work S KeyPair := do
  let r ← get
  set { r with keys.used := r.keys.used + 1 }
  match r.keys.pair r.keys.used with
  | .ok keys => return keys
  | .error e => throw (.failed attempt (.keys e))

/-- Calls the encoder and counts the call. -/
def measured (c : EncoderCall) : Work S (Except EncoderError c.Answer) := do
  let (answer, time) ← (Flow.call c : Flow (Registrar S) _)
  modify fun r => { r with metrics := r.metrics.observe c.method (.of answer) time }
  return answer

/-- Removes the device of a claim that failed. -/
def undoClaim (token publicKey : String) : Work S Unit := do
  try let _ ← onStore (removeDevice token publicKey)
  catch e => note (.undoFailed token e)

/-- Claims a device: makes key pairs, registers the device, has the encoder create its stream and
records it. A claim that fails after the registration is undone. -/
def claim (r : ClaimRequest) : Work S ClaimResponse := do
  let location ← r.validate
  noteIfVerbose (.claiming r)
  let userKeys ← nextKeys .userKeys
  let deviceKeys ← nextKeys .deviceKeys
  let ⟨user, device⟩ ← onStore (register r location userKeys deviceKeys)
  let created ← measured <| .createStream
    { broker := r.broker, topic := deviceTopic r.deviceToken,
      devicePrivateKey := device.keys.privateKey, recipientPublicKey := user.keys.publicKey,
      userUid := r.userUid, location, disposition := r.disposition }
  match created with
  | .error e =>
    undoClaim r.deviceToken user.keys.publicKey
    throw (.failed .createStream (.encoder e))
  | .ok uid =>
    try onStore (recordStream device.id uid)
    catch e =>
      note (.streamOrphaned uid r.deviceToken e)
      undoClaim r.deviceToken user.keys.publicKey
      throw e
    return ⟨user.keys.privateKey, user.keys.publicKey, device.keys.publicKey⟩

/-- Deletes streams at the encoder, up to the first that it does not delete. -/
def deleteStreams (token : String) : List StreamRow → Work S Unit
  | [] => return
  | s :: rest => do
    match ← measured (.deleteStream s.uid) with
    | .ok () => deleteStreams token rest
    | .error e =>
      note (.streamsAbandoned token ((s :: rest).map (·.uid)) e)
      throw (.failed .deleteStream (.encoder e))

/-- Revokes a device: removes it here, then deletes its streams at the encoder. -/
def revoke (r : RevokeRequest) : Work S RevokeResponse := do
  r.validate
  noteIfVerbose (.revoking r)
  let removed ← onStore (removeDevice r.deviceToken r.userPublicKey)
  deleteStreams r.deviceToken removed.streams
  return {}

/-- The store answers. -/
def checkReady : Work S Unit := onStore (attempting .reachStore Backend.ping)

end Registrar
end DeviceRegistry
