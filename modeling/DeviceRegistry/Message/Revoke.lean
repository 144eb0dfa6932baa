import DeviceRegistry.Json.Record

/-! Revoking a device. The owner proves itself by its public key. -/
namespace DeviceRegistry

structure RevokeRequest where
  deviceToken : String := ""
  userPublicKey : String := ""
deriving DecidableEq, Inhabited

namespace RevokeRequest

def shape : Json.Shape RevokeRequest where
  title := "struct RevokeDeviceRequest"
  initial := {}
  members := [
    ⟨"device_token", false, do let s ← Json.Reader.text; return ({ · with deviceToken := s })⟩,
    ⟨"user_public_key", false, do
      let s ← Json.Reader.text; return ({ · with userPublicKey := s })⟩]

def toJson (r : RevokeRequest) : Json.Value :=
  .object [("device_token", .text r.deviceToken), ("user_public_key", .text r.userPublicKey)]

end RevokeRequest

/-- What a revoke answers: nothing beyond its success. -/
structure RevokeResponse where
deriving DecidableEq, Inhabited

namespace RevokeResponse

def shape : Json.Shape RevokeResponse := ⟨"struct RevokeDeviceResponse", {}, []⟩

def toJson (_ : RevokeResponse) : Json.Value := .object []

end RevokeResponse
end DeviceRegistry
