import DeviceRegistry.Message.Claim
import DeviceRegistry.Message.Revoke
import DeviceRegistry.Registrar.Error

/-! Which requests are worth working on. The first argument that fails is reported; missing
coordinates, which are zeros, come before coordinates out of range. -/
namespace DeviceRegistry

def requireText (argument value : String) : Except RegistrationError Unit :=
  if value = "" then .error (.required argument) else .ok ()

def requireCoordinate (argument : String) (x : Binary64) : Except RegistrationError Unit :=
  if x.isZero then .error (.required argument) else .ok ()

/-- The coordinate lies between `-bound` and `bound`. -/
def requireDegrees (argument : String) (bound : Nat) (x : Binary64) :
    Except RegistrationError Unit :=
  if x.within bound then .ok ()
  else .error <| .invalidArgument argument <|
    argument ++ " must be between -" ++ toString bound ++ " and " ++ toString bound ++ " degrees"

/-- The location of a request that can be worked on. -/
def ClaimRequest.validate (r : ClaimRequest) : Except RegistrationError Location := do
  requireText "device_token" r.deviceToken
  requireText "broker" r.broker
  requireText "user_uid" r.userUid
  match r.location with
  | none => .error (.required "location")
  | some l =>
    requireCoordinate "longitude" l.longitude
    requireCoordinate "latitude" l.latitude
    requireDegrees "longitude" 180 l.longitude
    requireDegrees "latitude" 90 l.latitude
    return l

def RevokeRequest.validate (r : RevokeRequest) : Except RegistrationError Unit := do
  requireText "device_token" r.deviceToken
  requireText "user_public_key" r.userPublicKey

end DeviceRegistry
