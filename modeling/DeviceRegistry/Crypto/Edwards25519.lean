import DeviceRegistry.Crypto.Curve
import DeviceRegistry.Crypto.Sha512

/-! The curve `-x^2 + y^2 = 1 + d x^2 y^2` modulo `2^255 - 19`, and the public keys of signatures on
it. -/
namespace DeviceRegistry.Edwards25519

def fieldSize : Nat := Nat.pow 2 255 - 19

instance : @NeZero Nat Zero.ofOfNat0 fieldSize := ⟨by decide⟩

abbrev Coordinate := Fin fieldSize

/-- The number `d` of the equation. -/
def d : Coordinate := -121665 * Curve.inverse 121666

/-- The point with the coordinates `x / z` and `y / z`, and with `t = x y / z`. -/
structure Point where
  (x y z t : Coordinate)
deriving DecidableEq, Inhabited

namespace Point

def neutral : Point := ⟨0, 1, 1, 0⟩

def ofCoordinates (x y : Coordinate) : Point := ⟨x, y, 1, x * y⟩

def add (p q : Point) : Point :=
  let a := (p.y - p.x) * (q.y - q.x)
  let b := (p.y + p.x) * (q.y + q.x)
  let c := 2 * d * p.t * q.t
  let e := 2 * p.z * q.z
  ⟨(b - a) * (e - c), (e + c) * (b + a), (e - c) * (e + c), (b - a) * (b + a)⟩

def multiple (k : Nat) (p : Point) : Point :=
  (Curve.bits k).foldl (fun q bit => if bit then (q.add q).add p else q.add q) neutral

def generator : Point :=
  ofCoordinates
    (Fin.ofNat _ 0x216936d3cd6e53fec0a4e231fdd6dc5c692cc7609525a7b2c9562d608f25d51a)
    (4 * Curve.inverse 5)

/-- The bytes of `y`, the lowest first, with the lowest bit of `x` as their highest bit. -/
def encoded (p : Point) : Bytes :=
  let x := p.x * Curve.inverse p.z
  let y := p.y * Curve.inverse p.z
  (Bytes.ofNat 32 (y.val + x.val % 2 * Nat.pow 2 255)).reverse

end Point

/-- The number that a seed stands for, a multiple of 8 from `2^254` up to below `2^255`. -/
def scalarOf (seed : Bytes) : Nat :=
  let n := Bytes.toNat ((Sha512.digest seed).take 32).reverse
  Nat.pow 2 254 + n % Nat.pow 2 254 / 8 * 8

def publicKey (seed : Bytes) : Bytes := (Point.generator.multiple (scalarOf seed)).encoded

end DeviceRegistry.Edwards25519
