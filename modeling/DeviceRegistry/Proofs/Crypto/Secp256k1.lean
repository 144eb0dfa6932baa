import DeviceRegistry.Proofs.Crypto.Primality
import DeviceRegistry.Proofs.Crypto.Scaled
import Mathlib.GroupTheory.OrderOfElement

/-! The group of secp256k1 and its generator, whose order is the prime that bounds the scalars. -/
namespace DeviceRegistry.Secp256k1
open Curve WeierstrassCurve

instance : Fact secp256k1.fieldSize.Prime := ⟨Primality.prime_fieldSize⟩

instance : Fact secp256k1.order.Prime := ⟨Primality.prime_order⟩

theorem two_ne_zero : (2 : ZMod secp256k1.fieldSize) ≠ 0 := by
  have apart : (2 : Fin secp256k1.fieldSize) ≠ 0 := by decide +kernel
  rw [← residue_two, ← residue_zero]
  exact residue_injective.ne apart

/-- The group of the points with `y ^ 2 = x ^ 3 + 7`. -/
abbrev Group : Type := (weierstrass secp256k1 7).Point

def baseX : Fin secp256k1.fieldSize := Fin.ofNat _ secp256k1.generator.1

def baseY : Fin secp256k1.fieldSize := Fin.ofNat _ secp256k1.generator.2

theorem nonsingular_base :
    (weierstrass secp256k1 7).Nonsingular (residue baseX) (residue baseY) := by
  have on : baseY * baseY = baseX * baseX * baseX + Fin.ofNat _ 7 := by decide +kernel
  have nonzero : baseY ≠ 0 := by decide +kernel
  have equation := congrArg residue on
  simp only [residue_mul, residue_add, residue_ofNat, Nat.cast_ofNat] at equation
  refine (Affine.nonsingular_iff ..).mpr ⟨?_, .inr ?_⟩
  · rw [Affine.equation_iff]
    have none : (secp256k1.a : ZMod secp256k1.fieldSize) = 0 := Nat.cast_zero
    simp only [weierstrass, none]
    linear_combination equation
  · have above := residue_injective.ne nonzero
    rw [residue_zero] at above
    exact ne_negY two_ne_zero above

/-- The generator. -/
def base : Group := .some _ _ nonsingular_base

theorem pointAt_base : pointAt base = .affine baseX baseY := by
  rw [base, pointAt, ofResidue_eq_iff.mpr rfl, ofResidue_eq_iff.mpr rfl]

/-- The point of a scalar is its multiple of the generator. -/
theorem pointOf_eq (k : Nat) : secp256k1.pointOf k = pointAt (k • base) := by
  rw [← multiple_pointAt two_ne_zero, pointAt_base]
  rfl

theorem order_nsmul_base : secp256k1.order • base = 0 := by
  have none : (Scaled.multiple secp256k1.order baseX baseY).z = 0 := by decide +kernel
  exact (Scaled.multiple_stands two_ne_zero nonsingular_base _).eq_zero none

theorem addOrderOf_base : addOrderOf base = secp256k1.order :=
  addOrderOf_eq_prime order_nsmul_base (Affine.Point.some_ne_zero _)

/-- A scalar in range has a point with coordinates. -/
theorem nsmul_base_eq_some {k : Nat} (scalar : secp256k1.isScalar k = true) :
    ∃ x y on, k • base = .some x y on := by
  obtain ⟨pos, below⟩ := of_decide_eq_true scalar
  rw [← addOrderOf_base] at below
  have finite := nsmul_ne_zero_of_lt_addOrderOf pos.ne' below
  match k • base, finite with
  | .some x y on, _ => exact ⟨x, y, on, rfl⟩

end DeviceRegistry.Secp256k1
