import DeviceRegistry.Proofs.Crypto.Curve
import Mathlib.Tactic.LinearCombination

/-! Multiples of a point without division. A denominator is carried along with the coordinates, so
that a large multiple can be evaluated. -/
namespace DeviceRegistry.Curve
open WeierstrassCurve

/-- Coordinates over a denominator: `x / z ^ 2` and `y / z ^ 3`, and infinity for `z = 0`. -/
structure Scaled (C : Curve) where
  x : Fin C.fieldSize
  y : Fin C.fieldSize
  z : Fin C.fieldSize

namespace Scaled

variable {C : Curve}

def double (s : Scaled C) : Scaled C :=
  let square := s.y * s.y
  let slope := 3 * s.x * s.x + Fin.ofNat _ C.a * (s.z * s.z * s.z * s.z)
  let across := 2 * s.x * square
  let x := slope * slope - 2 * (across + across)
  ⟨x, slope * (across + across - x) - 2 * (2 * square) * (2 * square), 2 * s.y * s.z⟩

/-- The third point on the line of slope `rise / (z * run)`, reflected at the axis. -/
def along (s : Scaled C) (run rise : Fin C.fieldSize) : Scaled C :=
  let square := run * run
  let x := rise * rise - square * run - 2 * s.x * square
  ⟨x, rise * (s.x * square - x) - s.y * square * run, s.z * run⟩

/-- The sum with the point of these coordinates. -/
def add (s : Scaled C) (x y : Fin C.fieldSize) : Scaled C :=
  if s.z = 0 then ⟨x, y, 1⟩
  else
    let run := x * (s.z * s.z) - s.x
    let rise := y * (s.z * s.z * s.z) - s.y
    if run = 0 ∧ rise = 0 then s.double else s.along run rise

/-- The multiple of the point of these coordinates. -/
def multiple (k : Nat) (x y : Fin C.fieldSize) : Scaled C :=
  (bits k).foldl (fun s bit => if bit then s.double.add x y else s.double) ⟨1, 1, 0⟩

variable {b : ZMod C.fieldSize} {s : Scaled C} {P : (weierstrass C b).Point}

/-- The coordinates that scaled ones come to. -/
structure At (s : Scaled C) (x y : ZMod C.fieldSize) : Prop where
  finite : residue s.z ≠ 0
  atX : residue s.x = x * residue s.z ^ 2
  atY : residue s.y = y * residue s.z ^ 3

/-- The point of a group that scaled coordinates stand for. -/
inductive Stands (s : Scaled C) : (weierstrass C b).Point → Prop
  | zero : residue s.z = 0 → Stands s 0
  | some {x y : ZMod C.fieldSize} {on : (weierstrass C b).Nonsingular x y} : At s x y →
      Stands s (.some x y on)

theorem Stands.eq_zero (h : Stands s P) (none : s.z = 0) : P = 0 := by
  cases h with
  | zero => rfl
  | some h => exact absurd (by rw [none, residue_zero]) h.finite

section Coordinates
variable {x y u v ℓ : ZMod C.fieldSize} {run rise : Fin C.fieldSize}

/-- Doubling follows the tangent, whose slope needs no division here. -/
theorem At.double (h : At s x y) (tangent : ℓ * (2 * y) = 3 * x ^ 2 + C.a)
    (finite : residue s.double.z ≠ 0) :
    At s.double ((weierstrass C b).addX x x ℓ) ((weierstrass C b).addY x x y ℓ) := by
  have third : residue s.double.x = (weierstrass C b).addX x x ℓ * residue s.double.z ^ 2 := by
    simp only [Scaled.double, residue_sub, residue_add, residue_mul, residue_two, residue_three,
      residue_ofNat, h.atX, h.atY, Affine.addX, weierstrass]
    linear_combination (-residue s.z ^ 8 * (3 * x ^ 2 + C.a + 2 * y * ℓ)) * tangent
  refine ⟨finite, third, ?_⟩
  have slope : residue s.double.y = residue s.z ^ 4 * (3 * x ^ 2 + C.a) *
      (4 * x * y ^ 2 * residue s.z ^ 8 - residue s.double.x) - 8 * y ^ 4 * residue s.z ^ 12 := by
    simp only [Scaled.double, residue_sub, residue_add, residue_mul, residue_two, residue_three,
      residue_ofNat, h.atX, h.atY]
    ring
  rw [slope, third, ← tangent]
  simp only [Scaled.double, residue_mul, residue_two, h.atY, Affine.addY, Affine.negAddY,
    Affine.negY]
  simp only [weierstrass]
  ring

/-- Adding follows the chord. -/
theorem At.along [Fact C.fieldSize.Prime] (h : At s x y)
    (across : residue run = (u - x) * residue s.z ^ 2)
    (up : residue rise = (v - y) * residue s.z ^ 3) (apart : x ≠ u)
    (chord : ℓ * (u - x) = v - y) :
    At (s.along run rise) ((weierstrass C b).addX x u ℓ) ((weierstrass C b).addY x u y ℓ) := by
  have finite : residue (s.along run rise).z ≠ 0 := by
    rw [Scaled.along, residue_mul, across]
    exact mul_ne_zero h.finite
      (mul_ne_zero (sub_ne_zero.mpr (Ne.symm apart)) (pow_ne_zero 2 h.finite))
  rw [← chord] at up
  have third : residue (s.along run rise).x =
      (weierstrass C b).addX x u ℓ * residue (s.along run rise).z ^ 2 := by
    simp only [Scaled.along, residue_sub, residue_mul, residue_two, h.atX, across, up, Affine.addX,
      weierstrass]
    ring
  refine ⟨finite, third, ?_⟩
  have slope : residue (s.along run rise).y = residue rise *
      (residue s.x * residue run ^ 2 - residue (s.along run rise).x) -
      residue s.y * residue run ^ 3 := by
    simp only [Scaled.along, residue_sub, residue_mul]
    ring
  rw [slope, third]
  simp only [Scaled.along, residue_mul, h.atX, h.atY, across, up, Affine.addY, Affine.negAddY,
    Affine.negY]
  simp only [weierstrass]
  ring

end Coordinates

section Prime
variable [Fact C.fieldSize.Prime] (two : (2 : ZMod C.fieldSize) ≠ 0)
include two

theorem Stands.double (h : Stands s P) : Stands s.double (P + P) := by
  cases h with
  | zero none =>
    rw [add_zero]
    exact .zero (by simp [Scaled.double, none])
  | @some x y on h =>
    by_cases zero : y = 0
    · rw [Affine.Point.add_self_of_Y_eq (negY_of_zero (x := x) zero)]
      exact .zero (by simp [Scaled.double, h.atY, zero])
    · rw [Affine.Point.add_self_of_Y_ne (ne_negY two zero)]
      refine .some (h.double (slope_tangent two x zero) ?_)
      simpa [Scaled.double, h.atY, zero, two] using h.finite

theorem Stands.add {u v : ZMod C.fieldSize} (on : (weierstrass C b).Nonsingular u v)
    (h : Stands s P) :
    Stands (s.add (ofResidue u) (ofResidue v)) (P + Affine.Point.some u v on) := by
  cases h with
  | zero none =>
    have none : s.z = 0 := residue_injective (none.trans residue_zero.symm)
    rw [zero_add, Scaled.add, if_pos none]
    exact .some ⟨by simp, by simp, by simp⟩
  | @some x y on' h =>
    have finite : s.z ≠ 0 := fun none => h.finite (by rw [none, residue_zero])
    have across : residue (ofResidue u * (s.z * s.z) - s.x) = (u - x) * residue s.z ^ 2 := by
      simp only [residue_sub, residue_mul, residue_ofResidue, h.atX]
      ring
    have up : residue (ofResidue v * (s.z * s.z * s.z) - s.y) = (v - y) * residue s.z ^ 3 := by
      simp only [residue_sub, residue_mul, residue_ofResidue, h.atY]
      ring
    rw [Scaled.add, if_neg finite]
    generalize ofResidue u * (s.z * s.z) - s.x = run at across ⊢
    generalize ofResidue v * (s.z * s.z * s.z) - s.y = rise at up ⊢
    have still : run = 0 ↔ x = u := by
      rw [← residue_injective.eq_iff, across, residue_zero, mul_eq_zero, sub_eq_zero,
        or_iff_left (pow_ne_zero 2 h.finite), eq_comm]
    have level : rise = 0 ↔ y = v := by
      rw [← residue_injective.eq_iff, up, residue_zero, mul_eq_zero, sub_eq_zero,
        or_iff_left (pow_ne_zero 3 h.finite), eq_comm]
    simp only [still, level]
    by_cases sameX : x = u
    -- with the same abscissa the points are equal or opposite
    · subst sameX
      by_cases sameY : y = v
      · subst sameY
        rw [if_pos ⟨rfl, rfl⟩]
        exact (Stands.some h).double two
      · have opposite : y = (weierstrass C b).negY x v :=
          (Affine.Y_eq_of_X_eq on'.1 on.1 rfl).resolve_left sameY
        rw [if_neg fun same => sameY same.2, Affine.Point.add_of_Y_eq rfl opposite]
        exact .zero (by simp [along, still.mpr rfl])
    · rw [if_neg fun same => sameX same.1, Affine.Point.add_of_X_ne sameX]
      exact .some (h.along across up sameX (slope_chord sameX y v))

theorem multiple_stands {x y : Fin C.fieldSize}
    (on : (weierstrass C b).Nonsingular (residue x) (residue y)) (k : Nat) :
    Stands (multiple k x y) (k • Affine.Point.some _ _ on) := by
  refine foldl_bits (fun n s => Stands s (n • Affine.Point.some _ _ on))
    (fun n s bit h => ?_) ?_ k
  · have doubled := h.double two
    rw [← add_nsmul, ← two_mul] at doubled
    cases bit with
    | true =>
      have added := doubled.add two on
      rwa [← succ_nsmul, ofResidue_eq_iff.mpr rfl, ofResidue_eq_iff.mpr rfl] at added
    | false => rwa [if_neg Bool.false_ne_true, Bool.toNat_false, Nat.add_zero]
  · rw [zero_nsmul]
    exact .zero residue_zero

end Prime
end Scaled
end DeviceRegistry.Curve
