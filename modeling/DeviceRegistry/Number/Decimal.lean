import DeviceRegistry.Number.Binary64

/-! Decimal numerals and the double-precision number nearest to one. Rounding is correct for any number
of digits. A reader that rounds the digits first and the power of ten after them agrees with it while
the digits are at most `2^53` and the power is exact; beyond that it may come to a neighbour. -/
namespace DeviceRegistry

/-- The number `± digits * 10^exponent`. -/
structure Decimal where
  negative : Bool
  digits : Nat
  exponent : Int
deriving DecidableEq

namespace Decimal

/-- Past this power of ten every non-zero numeral is beyond the largest finite number. -/
def largeExponent : Int := 400

/-- The code nearest to the magnitude. Numerals far outside the range of finite numbers are
decided by their exponent alone, so no power is formed for them; the two bounds leave the
answer of the exact comparison unchanged. -/
def code (x : Decimal) : Nat :=
  if x.digits = 0 then 0
  else if largeExponent < x.exponent then Binary64.infinityCode
  else if x.exponent + Nat.log2 x.digits < -largeExponent then 0
  else if 0 ≤ x.exponent then Binary64.nearestCode (x.digits * Nat.pow 10 x.exponent.toNat) 1
  else Binary64.nearestCode x.digits (Nat.pow 10 (-x.exponent).toNat)

/-- The nearest number, rounded once; a magnitude beyond the finite ones gives an infinity. -/
def nearest (x : Decimal) : Binary64 := Binary64.ofCode x.negative x.code

end Decimal
end DeviceRegistry
