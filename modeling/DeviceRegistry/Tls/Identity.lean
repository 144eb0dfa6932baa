import DeviceRegistry.Tls.Certificate
import DeviceRegistry.Tls.Pem
import DeviceRegistry.Tls.PrivateKey

/-! What a server shows who it is: certificates, of which the first is its own, and the key that
belongs to it. -/
namespace DeviceRegistry

/-- Why the files of a server do not show who it is. -/
inductive IdentityError where
  | badCertificateFile | noKey | severalKeys | unknownKeyForm | badKey | noCertificate
  | badCertificate (fault : Certificate.Fault)
  /-- The certificate is for another key. -/
  | otherKey
deriving DecidableEq, Inhabited

def IdentityError.message : IdentityError → String
  | badCertificateFile => "failed to parse certificate"
  | noKey => "The private key file contained no keys"
  | severalKeys => "The private key file containsed multiple keys (it must only contain one)"
  | unknownKeyForm => "unknown or invalid key format"
  | badKey => "unexpected error: failed to parse private key as RSA, ECDSA, or EdDSA"
  | noCertificate => "peer sent no certificates"
  | badCertificate fault => "invalid peer certificate: " ++ fault.message
  | otherKey => "keys may not be consistent: KeyMismatch"

namespace Identity

def certificateLabel : String := "CERTIFICATE"
def keyLabels : List String := ["PRIVATE KEY", "RSA PRIVATE KEY", "EC PRIVATE KEY"]

/-- The certificates of a file, in which no section may be broken. -/
def certificates (file : Bytes) : Except IdentityError (List Bytes) :=
  match (Pem.sections file).mapM id with
  | none => .error .badCertificateFile
  | some sections => .ok ((sections.filter (·.label == certificateLabel)).map (·.content))

/-- The one key of a file, in which other sections do not count. -/
def onlyKey (file : Bytes) : Except IdentityError Bytes :=
  let sections := (Pem.sections file).filterMap id
  match sections.filter fun s => keyLabels.contains s.label with
  | [] => .error .noKey
  | [s] => .ok s.content
  | _ => .error .severalKeys

def publicKeyOf (key : Bytes) : Except IdentityError PublicKey :=
  match PrivateKey.Form.of? key with
  | none => .error .unknownKeyForm
  | some form =>
    match PrivateKey.publicKey? form key with
    | none => .error .badKey
    | some publicKey => .ok publicKey

/-- Checks that the first certificate of one file is for the key in the other. -/
def check (certificateFile keyFile : Bytes) : Except IdentityError Unit := do
  let chain ← certificates certificateFile
  let publicKey ← publicKeyOf (← onlyKey keyFile)
  match chain with
  | [] => throw .noCertificate
  | certificate :: _ =>
    let info ← (Certificate.publicKeyInfo certificate).mapError .badCertificate
    if info ≠ publicKey.info then throw .otherKey

end Identity
end DeviceRegistry
