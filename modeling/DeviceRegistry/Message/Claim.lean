import DeviceRegistry.Message.Location

/-! Claiming a device. Every member of a request may be left out; its zero value stands for it. -/
namespace DeviceRegistry

structure ClaimRequest where
  deviceToken : String := ""
  userUid : String := ""
  location : Option Location := none
  disposition : Disposition := .indoor
  broker : String := ""
deriving DecidableEq, Inhabited

namespace ClaimRequest

def shape : Json.Shape ClaimRequest where
  title := "struct ClaimDeviceRequest"
  initial := {}
  members := [
    ⟨"device_token", false, do let s ← Json.Reader.text; return ({ · with deviceToken := s })⟩,
    ⟨"user_uid", false, do let s ← Json.Reader.text; return ({ · with userUid := s })⟩,
    ⟨"location", false, do
      let l ← Json.Reader.nullable Location.shape.read
      return ({ · with location := l })⟩,
    ⟨"disposition", false, do let d ← Disposition.read; return ({ · with disposition := d })⟩,
    ⟨"broker", false, do let s ← Json.Reader.text; return ({ · with broker := s })⟩]

def toJson (r : ClaimRequest) : Json.Value :=
  .object <|
    [("device_token", .text r.deviceToken), ("user_uid", .text r.userUid)] ++
    (r.location.map fun l => ("location", l.toJson)).toList ++
    [("disposition", r.disposition.toJson), ("broker", .text r.broker)]

end ClaimRequest

/-- What a claim answers: the owner's key pair and the device's public key. -/
structure ClaimResponse where
  userPrivateKey : String := ""
  userPublicKey : String := ""
  devicePublicKey : String := ""
deriving DecidableEq, Inhabited

namespace ClaimResponse

def shape : Json.Shape ClaimResponse where
  title := "struct ClaimDeviceResponse"
  initial := {}
  members := [
    ⟨"user_private_key", true, do
      let s ← Json.Reader.text; return ({ · with userPrivateKey := s })⟩,
    ⟨"user_public_key", true, do
      let s ← Json.Reader.text; return ({ · with userPublicKey := s })⟩,
    ⟨"device_public_key", true, do
      let s ← Json.Reader.text; return ({ · with devicePublicKey := s })⟩]

def toJson (r : ClaimResponse) : Json.Value :=
  .object [("user_private_key", .text r.userPrivateKey), ("user_public_key", .text r.userPublicKey),
    ("device_public_key", .text r.devicePublicKey)]

end ClaimResponse
end DeviceRegistry
