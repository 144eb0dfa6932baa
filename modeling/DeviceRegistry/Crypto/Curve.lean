import DeviceRegistry.Text.Bytes

/-! Curves `y^2 = x^3 + a x + b` over the integers modulo a prime, and multiples of a generator.
The sum of two points does not depend on `b`. -/
namespace DeviceRegistry

structure Curve where
  fieldSize : Nat
  fieldSize_pos : 0 < fieldSize := by decide
  /-- The factor of `x`, modulo the size of the field. -/
  a : Nat
  generator : Nat × Nat
  order : Nat

namespace Curve

instance (C : Curve) : @NeZero Nat Zero.ofOfNat0 C.fieldSize := ⟨Nat.ne_of_gt C.fieldSize_pos⟩

/-- The binary digits of a number, the highest first. -/
def bits (k : Nat) : List Bool := (List.range (k.log2 + 1)).reverse.map k.testBit

/-- The power of a field element, bit by bit of the exponent. -/
def power {α : Type} [Mul α] [OfNat α 1] (x : α) (k : Nat) : α :=
  (bits k).foldl (fun p bit => if bit then p * p * x else p * p) 1

/-- The inverse modulo a prime, by the little theorem of Fermat; zero for zero. -/
def inverse {n : Nat} [OfNat (Fin n) 1] (x : Fin n) : Fin n := power x (n - 2)

inductive Point (C : Curve) where
  | infinity
  | affine (x y : Fin C.fieldSize)
deriving DecidableEq

namespace Point

variable {C : Curve}

instance : Inhabited (Point C) := ⟨infinity⟩

/-- The third point on the line of that slope through a point, reflected at the axis. -/
def reflected (slope x1 y1 x2 : Fin C.fieldSize) : Point C :=
  let x := slope * slope - x1 - x2
  .affine x (slope * (x1 - x) - y1)

/-- The sum with itself: the tangent's third point, reflected at the axis. -/
def double : Point C → Point C
  | infinity => infinity
  | affine x y =>
    if y = 0 then infinity else reflected ((3 * x * x + Fin.ofNat _ C.a) * inverse (2 * y)) x y x

/-- The sum: the third point of the line through both, reflected at the axis. -/
def add : Point C → Point C → Point C
  | infinity, q => q
  | p, infinity => p
  | affine x1 y1, affine x2 y2 =>
    if x1 = x2 then if y1 = y2 then double (affine x1 y1) else infinity
    else reflected ((y2 - y1) * inverse (x2 - x1)) x1 y1 x2

def multiple (k : Nat) (p : Point C) : Point C :=
  (bits k).foldl (fun q bit => if bit then q.double.add p else q.double) infinity

/-- The bytes of a coordinate. -/
def coordinateLength (C : Curve) : Nat := (C.fieldSize.log2 + 8) / 8

/-- The coordinates. Infinity has none and is written with zeros. -/
def coordinates : Point C → Nat × Nat
  | infinity => (0, 0)
  | affine x y => (x.val, y.val)

/-- The compressed form: whether `y` is odd, and `x`. -/
def compressed (p : Point C) : Bytes :=
  let (x, y) := p.coordinates
  (if y % 2 = 0 then 2 else 3) :: Bytes.ofNat (coordinateLength C) x

/-- The long form: both coordinates. -/
def uncompressed (p : Point C) : Bytes :=
  let (x, y) := p.coordinates
  4 :: Bytes.ofNat (coordinateLength C) x ++ Bytes.ofNat (coordinateLength C) y

end Point

/-- A number that has a point of its own: from 1 up to below the order. -/
def isScalar (C : Curve) (k : Nat) : Bool := decide (0 < k ∧ k < C.order)

def pointOf (C : Curve) (k : Nat) : Point C :=
  .multiple k (.affine (Fin.ofNat _ C.generator.1) (Fin.ofNat _ C.generator.2))

end Curve
end DeviceRegistry
