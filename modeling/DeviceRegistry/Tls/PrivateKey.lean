import DeviceRegistry.Crypto.Edwards25519
import DeviceRegistry.Crypto.PrimeCurves
import DeviceRegistry.Tls.PublicKey

/-! Private keys as files hold them, and the public keys that belong to them. A key is taken only
if its parts fit together. -/
namespace DeviceRegistry.PrivateKey

/-- The forms of a private key: with its algorithm in front, or in the form of one algorithm. -/
inductive Form where
  | general | rsa | curve
deriving DecidableEq, Inhabited

/-- The form of an encoding, by what follows the header of the outermost sequence. -/
def Form.of? (der : Bytes) : Option Form := do
  guard (der.head? == some Der.Tag.sequence)
  let n ← der[1]?
  let width := if n < 0x80 then 2 else 2 + (n.toNat - 0x80)
  guard (width ≤ der.length)
  match der.drop width with
  | 0x02 :: 0x01 :: _ :: 0x30 :: _ => some .general
  | 0x02 :: 0x01 :: 0x00 :: _ => some .rsa
  | 0x02 :: 0x01 :: 0x01 :: _ => some .curve
  | _ => none

/-- The key with its algorithm in front: its version, its algorithm, its content, and the public
key that comes with it in the second version. -/
structure General where
  version : Nat
  algorithm : Bytes
  key : Bytes
  publicKey : Option Bytes

def general : Der.Reader General :=
  Der.inside Der.Tag.sequence do
    let version ← Der.natural
    let algorithm ← Der.value Der.Tag.sequence
    let key ← Der.value Der.Tag.octetString
    let _ ← Der.value? (Der.Tag.around 0)
    if version = 0 then return { version, algorithm, key, publicKey := none }
    let publicKey ← match ← Der.value? (Der.Tag.around 1) with
      | some content => fun b => (Der.whole Der.bitString content).map (·, b)
      | none =>
        let content ← Der.value (Der.Tag.numbered 1)
        fun b => (Der.wholeBytes content).map (·, b)
    return { version, algorithm, key, publicKey := some publicKey }

/-! Keys of RSA. -/

/-- The numbers of a key: modulus, exponents, primes, exponents modulo the primes, and the inverse
of the second prime modulo the first. -/
structure RsaNumbers where
  (n e d p q dp dq inverse : Nat)

def rsaNumbers : Der.Reader RsaNumbers :=
  Der.inside Der.Tag.sequence do
    guard ((← Der.natural) == 0)
    return ⟨← Der.natural, ← Der.natural, ← Der.natural, ← Der.natural, ← Der.natural,
      ← Der.natural, ← Der.natural, ← Der.natural⟩

def bitLength (n : Nat) : Nat := if n = 0 then 0 else n.log2 + 1

def isOdd (n : Nat) : Bool := n % 2 == 1

namespace RsaNumbers

/-- The modulus has from 2048 to 4096 bits and the public exponent is at least 65537. -/
def isStrong (k : RsaNumbers) : Bool :=
  let size := bitLength k.n
  2048 ≤ (size + 7) / 8 * 8 && size ≤ 4096 && isOdd k.n && isOdd k.e && 65537 ≤ k.e &&
    bitLength k.e ≤ 33

/-- The numbers fit together, as far as that can be told without finding prime factors. -/
def isConsistent (k : RsaNumbers) : Bool :=
  let half := bitLength k.n / 2
  bitLength k.n % 2 == 0 && bitLength k.p == half && bitLength k.q == half && isOdd k.p &&
    isOdd k.q && k.p * k.q == k.n && half < bitLength k.d && k.d < k.n && isOdd k.d &&
    isOdd k.dp && k.dp < k.p && isOdd k.dq && k.dq < k.q && k.inverse < k.p &&
    k.inverse * k.q % k.p == 1

def publicKey (k : RsaNumbers) : PublicKey :=
  ⟨.rsa, Der.encode Der.Tag.sequence (Der.encodeNatural k.n ++ Der.encodeNatural k.e)⟩

end RsaNumbers

/-- The public key of a key of RSA. -/
def rsaPublicKey? (der : Bytes) : Option PublicKey := do
  let k ← Der.whole rsaNumbers der
  guard (k.isStrong && k.isConsistent)
  return k.publicKey

/-! Keys of curves. -/

def curveOf? : KeyAlgorithm → Option Curve
  | .p256 => some p256
  | .p384 => some p384
  | _ => none

/-- The scalar of a key and its public key, which has to be there. The curve may be named. -/
def curveParts (algorithm : KeyAlgorithm) : Der.Reader (Bytes × Bytes) :=
  Der.inside Der.Tag.sequence do
    guard ((← Der.natural) == 1)
    let scalar ← Der.value Der.Tag.octetString
    if let some named ← Der.value? (Der.Tag.around 0) then
      guard (named == algorithm.curveIdentifier)
    let publicKey ← Der.inside (Der.Tag.around 1) Der.bitString
    return (scalar, publicKey)

/-- The public key of a key of that curve. -/
def curvePublicKey? (algorithm : KeyAlgorithm) (der : Bytes) : Option PublicKey := do
  let curve ← curveOf? algorithm
  let (scalar, publicKey) ← Der.whole (curveParts algorithm) der
  let k := Bytes.toNat scalar
  guard (scalar.length == Curve.Point.coordinateLength curve && curve.isScalar k)
  guard (publicKey == (curve.pointOf k).uncompressed)
  return ⟨algorithm, publicKey⟩

/-- The public key of a seed, which is the one that comes with it, if one does. -/
def seedPublicKey? (content : Bytes) (given : Option Bytes) : Option PublicKey := do
  let seed ← Der.whole (Der.value Der.Tag.octetString) content
  guard (seed.length == 32)
  let key := Edwards25519.publicKey seed
  guard (given.all (· == key))
  return ⟨.ed25519, key⟩

/-- The public key of a key with its algorithm in front. -/
def generalPublicKey? (k : General) : Option PublicKey :=
  if k.algorithm = KeyAlgorithm.ed25519.identifier then
    if k.version ≤ 1 then seedPublicKey? k.key k.publicKey else none
  else if k.version ≠ 0 then none
  else if k.algorithm = KeyAlgorithm.rsa.identifier then rsaPublicKey? k.key
  else if k.algorithm = KeyAlgorithm.p256.identifier then curvePublicKey? .p256 k.key
  else if k.algorithm = KeyAlgorithm.p384.identifier then curvePublicKey? .p384 k.key
  else none

/-- The public key that belongs to an encoding, if that is one of a key whose parts fit
together. -/
def publicKey? (form : Form) (der : Bytes) : Option PublicKey :=
  match form with
  | .general => (Der.whole general der).bind generalPublicKey?
  | .rsa => rsaPublicKey? der
  | .curve => (curvePublicKey? .p256 der).or (curvePublicKey? .p384 der)

end DeviceRegistry.PrivateKey
