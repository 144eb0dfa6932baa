/-! Double-precision numbers by their encodings. A finite number is a whole multiple of `2^-1074`;
every comparison and rounding below is exact arithmetic on those multiples, and a code orders
the non-negative numbers as the numbers themselves are ordered. -/
namespace DeviceRegistry

/-- A double-precision number, as its 64 bits. -/
structure Binary64 where
  bits : UInt64
deriving DecidableEq, Inhabited

namespace Binary64

def signPlace : Nat := Nat.pow 2 63
def fractionCount : Nat := Nat.pow 2 52

/-- The code of positive infinity; smaller codes are the finite magnitudes. -/
def infinityCode : Nat := 2047 * fractionCount

/-- The code of the number without its sign. -/
def code (x : Binary64) : Nat := x.bits.toNat % signPlace

def isNegative (x : Binary64) : Bool := decide (signPlace ≤ x.bits.toNat)
def isFinite (x : Binary64) : Bool := decide (code x < infinityCode)

def isZero (x : Binary64) : Bool := code x == 0

/-- The number with the given sign and code. -/
def ofCode (negative : Bool) (c : Nat) : Binary64 :=
  ⟨UInt64.ofNat (if negative then c % signPlace + signPlace else c % signPlace)⟩

def zero : Binary64 := ofCode false 0
def infinity : Binary64 := ofCode false infinityCode
def negativeInfinity : Binary64 := ofCode true infinityCode
def nan : Binary64 := ofCode false (infinityCode + fractionCount / 2)

/-- The magnitude of a code, in multiples of `2^-1074`. -/
def units (c : Nat) : Nat :=
  if c < fractionCount then c
  else (fractionCount + c % fractionCount) * Nat.pow 2 (c / fractionCount - 1)

/-- One, in multiples of `2^-1074`. -/
def oneUnits : Nat := Nat.pow 2 1074

/-- The number lies between `-bound` and `bound`, the ends included. -/
def within (bound : Nat) (x : Binary64) : Bool :=
  x.isFinite && decide (units (code x) ≤ bound * oneUnits)

/-- The whole number nearest to `n / d`, a half going to the even neighbour. -/
def divNearest (n d : Nat) : Nat :=
  let q := n / d
  let r := n % d
  if 2 * r < d then q else if 2 * r = d ∧ q % 2 = 0 then q else q + 1

/-- The code nearest to `n / d`, a half going to the code with even fraction. Codes from
`infinityCode` on stand for magnitudes too large for a finite number. The binary exponent is
read off the whole part; a significand that rounds up to the next power of two carries into
the exponent by itself, because codes are consecutive. -/
def nearestCode (n d : Nat) : Nat :=
  let scaled := n * oneUnits
  let shift := Nat.log2 (scaled / d) - 52
  min (shift * fractionCount + divNearest scaled (d * Nat.pow 2 shift)) infinityCode

def ofNat (n : Nat) : Binary64 := ofCode false (nearestCode n 1)

def neg (x : Binary64) : Binary64 := ofCode (!x.isNegative) (code x)

end Binary64
end DeviceRegistry
