import DeviceRegistry.Crypto.Curve

/-! The curve secp256k1, `y^2 = x^3 + 7`. -/
namespace DeviceRegistry

/-- The curve of the keys of users and devices. -/
def secp256k1 : Curve where
  fieldSize := Nat.pow 2 256 - Nat.pow 2 32 - 977
  a := 0
  generator :=
    (0x79be667ef9dcbbac55a06295ce870b07029bfcdb2dce28d959f2815b16f81798,
      0x483ada7726a3c4655da4fbfc0e1108a8fd17b448a68554199c47d08ffb10d4b8)
  order := 0xfffffffffffffffffffffffffffffffebaaedce6af48a03bbfd25e8cd0364141

end DeviceRegistry
