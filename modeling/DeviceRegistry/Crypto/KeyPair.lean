import DeviceRegistry.Crypto.Column
import DeviceRegistry.Crypto.Secp256k1
import DeviceRegistry.Text.Base64
import DeviceRegistry.Text.Quoted

/-! Key pairs of users and devices: a scalar of secp256k1 and its compressed point, in Base64. -/
namespace DeviceRegistry

structure KeyPair where
  privateKey : String := ""
  publicKey : String := ""
deriving DecidableEq, Inhabited

inductive KeyError where
  | noRandomness
  | invalidScalar (reason : String)
deriving DecidableEq, Inhabited

def KeyError.message : KeyError → String
  | noRandomness => "failed to gather randomness for private key"
  | invalidScalar reason => "generated scalar is not a valid secp256k1 key: " ++ reason

namespace KeyPair

def secretLength : Nat := 32

def generate (draw : Draw) : Except KeyError KeyPair :=
  match draw.exactly? secretLength with
  | none => .error .noRandomness
  | some secret =>
    let scalar := Bytes.toNat secret
    if secp256k1.isScalar scalar then
      .ok ⟨Base64.encode secret, Base64.encode (secp256k1.pointOf scalar).compressed⟩
    else .error (.invalidScalar "signature error")

/-- A description that keeps the private key to itself. -/
def description (k : KeyPair) : String :=
  "KeyPair \x7b private_key: \"<redacted>\", public_key: " ++ Text.quoted k.publicKey ++ " \x7d"

end KeyPair
end DeviceRegistry
