import DeviceRegistry.Json.Record
import DeviceRegistry.Message.Location
import DeviceRegistry.Store.Error
import DeviceRegistry.Text.Base64

/-! Rows as they are stored: one JSON record a row, with the private key sealed and in Base64. -/
namespace DeviceRegistry

structure UserRow where
  id : UInt64
  uid : String
  privateKey : Bytes
  publicKey : String
deriving DecidableEq, Inhabited

structure DeviceRow where
  id : UInt64
  token : String
  userId : UInt64
  privateKey : Bytes
  publicKey : String
  location : Location
  disposition : Disposition
deriving DecidableEq, Inhabited

structure StreamRow where
  id : UInt64
  uid : String
  deviceId : UInt64
deriving DecidableEq, Inhabited

class StoredRow (ρ : Type) where
  shape : Json.Shape ρ
  toJson : ρ → Json.Value

namespace StoredRow

/-- A sealed value, as its Base64 text. -/
def sealedReader : Json.Reader Bytes := do
  match Base64.decode? (← Json.Reader.text) with
  | some b => return b
  | none => Json.Reader.refuseObject .badBase64

def sealedJson (b : Bytes) : Json.Value := .text (Base64.encode b)

instance : StoredRow UserRow where
  shape := {
    title := "struct UserRow"
    initial := default
    members := [
      ⟨"id", true, do let n ← Json.Reader.natural; return ({ · with id := n })⟩,
      ⟨"uid", true, do let s ← Json.Reader.text; return ({ · with uid := s })⟩,
      ⟨"private_key", true, do let b ← sealedReader; return ({ · with privateKey := b })⟩,
      ⟨"public_key", true, do let s ← Json.Reader.text; return ({ · with publicKey := s })⟩] }
  toJson r := .object [("id", .natural r.id), ("uid", .text r.uid),
    ("private_key", sealedJson r.privateKey), ("public_key", .text r.publicKey)]

instance : StoredRow DeviceRow where
  shape := {
    title := "struct DeviceRow"
    initial := default
    members := [
      ⟨"id", true, do let n ← Json.Reader.natural; return ({ · with id := n })⟩,
      ⟨"token", true, do let s ← Json.Reader.text; return ({ · with token := s })⟩,
      ⟨"user_id", true, do let n ← Json.Reader.natural; return ({ · with userId := n })⟩,
      ⟨"private_key", true, do let b ← sealedReader; return ({ · with privateKey := b })⟩,
      ⟨"public_key", true, do let s ← Json.Reader.text; return ({ · with publicKey := s })⟩,
      ⟨"longitude", true, do
        let x ← Json.Reader.real; return fun r => { r with location.longitude := x }⟩,
      ⟨"latitude", true, do
        let x ← Json.Reader.real; return fun r => { r with location.latitude := x }⟩,
      ⟨"disposition", true, do
        let d ← Disposition.read; return ({ · with disposition := d })⟩] }
  toJson r := .object [("id", .natural r.id), ("token", .text r.token),
    ("user_id", .natural r.userId), ("private_key", sealedJson r.privateKey),
    ("public_key", .text r.publicKey), ("longitude", .real r.location.longitude),
    ("latitude", .real r.location.latitude), ("disposition", r.disposition.toJson)]

instance : StoredRow StreamRow where
  shape := {
    title := "struct StreamRow"
    initial := default
    members := [
      ⟨"id", true, do let n ← Json.Reader.natural; return ({ · with id := n })⟩,
      ⟨"uid", true, do let s ← Json.Reader.text; return ({ · with uid := s })⟩,
      ⟨"device_id", true, do let n ← Json.Reader.natural; return ({ · with deviceId := n })⟩] }
  toJson r := .object [("id", .natural r.id), ("uid", .text r.uid),
    ("device_id", .natural r.deviceId)]

variable {ρ : Type} [StoredRow ρ]

def encode (row : ρ) : Bytes := (toJson row).write

/-- The row of a stored record. A record that cannot be read is reported with the place where
reading stopped. -/
def decode (b : Bytes) : Except StoreError ρ :=
  match Json.readPlacing (shape (ρ := ρ)).read b with
  | .ok row => .ok row
  | .error (failure, place) => .error (.unreadable (failure.cause.message ++ place.message))

end StoredRow
end DeviceRegistry
