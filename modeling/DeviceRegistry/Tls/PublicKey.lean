import DeviceRegistry.Tls.Der

/-! Public keys as certificates hold them: the algorithm, and the key in the form of that
algorithm. -/
namespace DeviceRegistry

inductive KeyAlgorithm where
  | rsa | p256 | p384 | ed25519
deriving DecidableEq, Inhabited

namespace KeyAlgorithm

def curveIdentifier : KeyAlgorithm → Bytes
  | p256 => Der.encode Der.Tag.identifier [0x2a, 0x86, 0x48, 0xce, 0x3d, 0x03, 0x01, 0x07]
  | p384 => Der.encode Der.Tag.identifier [0x2b, 0x81, 0x04, 0x00, 0x22]
  | _ => []

/-- The identifier of an algorithm with its parameters. -/
def identifier : KeyAlgorithm → Bytes
  | rsa =>
    Der.encode Der.Tag.identifier [0x2a, 0x86, 0x48, 0x86, 0xf7, 0x0d, 0x01, 0x01, 0x01] ++
      [0x05, 0x00]
  | ed25519 => Der.encode Der.Tag.identifier [0x2b, 0x65, 0x70]
  | curve =>
    Der.encode Der.Tag.identifier [0x2a, 0x86, 0x48, 0xce, 0x3d, 0x02, 0x01] ++
      curve.curveIdentifier

end KeyAlgorithm

structure PublicKey where
  algorithm : KeyAlgorithm
  /-- The key in the form of its algorithm. -/
  key : Bytes
deriving DecidableEq, Inhabited

/-- The content of the key's encoding in a certificate. -/
def PublicKey.info (k : PublicKey) : Bytes :=
  Der.encode Der.Tag.sequence k.algorithm.identifier ++ Der.encode Der.Tag.bitString (0 :: k.key)

end DeviceRegistry
