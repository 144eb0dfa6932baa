import DeviceRegistry.Crypto.Curve
import Mathlib.AlgebraicGeometry.EllipticCurve.Affine.Point
import Mathlib.FieldTheory.Finite.Basic

/-! The points of a curve over a prime field are those of the group that the chords and tangents
make, and multiples are its multiples. -/
namespace DeviceRegistry.Curve
open WeierstrassCurve

/-- What holds after each binary digit of a number, from the highest on, holds of the number. -/
theorem foldl_bits {β : Type} (holds : Nat → β → Prop) {step : β → Bool → β}
    (next : ∀ n b bit, holds n b → holds (2 * n + bit.toNat) (step b bit)) {b : β}
    (start : holds 0 b) (k : Nat) : holds k ((bits k).foldl step b) := by
  have digits (m n : Nat) (b : β) (h : holds n b) :
      holds (n * 2 ^ m + k % 2 ^ m) (((List.range m).reverse.map k.testBit).foldl step b) := by
    induction m generalizing n b with
    | zero => simpa [Nat.mod_one] using h
    | succ m ih =>
      have later := ih _ _ (next n b (k.testBit m) h)
      rw [List.range_succ, List.reverse_append, List.reverse_singleton, List.singleton_append,
        List.map_cons, List.foldl_cons]
      -- the digit that comes next is the one of weight `2 ^ m`
      convert later using 1
      rw [Nat.pow_succ, Nat.mod_mul, Nat.toNat_testBit]
      ring
  have all := digits (k.log2 + 1) 0 b start
  rwa [Nat.zero_mul, Nat.zero_add, Nat.mod_eq_of_lt Nat.lt_log2_self] at all

variable {C : Curve}

/-- An element of the field as a residue class. -/
def residue (x : Fin C.fieldSize) : ZMod C.fieldSize := (x.val : ZMod C.fieldSize)

@[simp] theorem residue_ofNat (n : Nat) : residue (Fin.ofNat C.fieldSize n) = n :=
  ZMod.natCast_mod _ _

@[simp] theorem residue_zero : residue (0 : Fin C.fieldSize) = 0 :=
  (residue_ofNat 0).trans Nat.cast_zero

@[simp] theorem residue_one : residue (1 : Fin C.fieldSize) = 1 :=
  (residue_ofNat 1).trans Nat.cast_one

@[simp] theorem residue_two : residue (2 : Fin C.fieldSize) = 2 :=
  residue_ofNat 2

@[simp] theorem residue_three : residue (3 : Fin C.fieldSize) = 3 :=
  residue_ofNat 3

@[simp] theorem residue_mul (x y : Fin C.fieldSize) : residue (x * y) = residue x * residue y := by
  rw [residue, Fin.val_mul, ZMod.natCast_mod, Nat.cast_mul]
  rfl

@[simp] theorem residue_add (x y : Fin C.fieldSize) : residue (x + y) = residue x + residue y := by
  rw [residue, Fin.val_add, ZMod.natCast_mod, Nat.cast_add]
  rfl

@[simp] theorem residue_sub (x y : Fin C.fieldSize) : residue (x - y) = residue x - residue y := by
  rw [residue, Fin.val_sub, ZMod.natCast_mod, Nat.cast_add, Nat.cast_sub (Nat.le_of_lt y.isLt),
    ZMod.natCast_self, zero_sub, neg_add_eq_sub]
  rfl

theorem residue_injective : Function.Injective (residue (C := C)) := by
  intro x y same
  have same := (ZMod.natCast_eq_natCast_iff' _ _ _).mp same
  rw [Nat.mod_eq_of_lt x.isLt, Nat.mod_eq_of_lt y.isLt] at same
  exact Fin.ext same

theorem residue_power (x : Fin C.fieldSize) (k : Nat) : residue (power x k) = residue x ^ k := by
  refine foldl_bits (fun n q => residue q = residue x ^ n) (fun n q bit h => ?_) ?_ k
  · cases bit with
    | true => simp [h, ← pow_add, two_mul, pow_succ]
    | false => simp [h, ← pow_add, two_mul]
  · simp

/-- The curve as one of those in Weierstrass's form. -/
def weierstrass (C : Curve) (b : ZMod C.fieldSize) : Affine (ZMod C.fieldSize) :=
  ⟨0, 0, 0, C.a, b⟩

/-- The element of the field that a residue class is. -/
def ofResidue (x : ZMod C.fieldSize) : Fin C.fieldSize := ⟨x.val, x.val_lt⟩

@[simp] theorem residue_ofResidue (x : ZMod C.fieldSize) : residue (ofResidue x) = x :=
  ZMod.natCast_zmod_val x

theorem ofResidue_eq_iff {x : ZMod C.fieldSize} {y : Fin C.fieldSize} :
    ofResidue x = y ↔ x = residue y := by
  rw [← residue_injective.eq_iff, residue_ofResidue]

variable {b : ZMod C.fieldSize}

/-- A point of the group by its coordinates. -/
def pointAt : (weierstrass C b).Point → Point C
  | .zero => .infinity
  | .some x y _ => .affine (ofResidue x) (ofResidue y)

@[simp] theorem pointAt_zero : pointAt (0 : (weierstrass C b).Point) = .infinity := rfl

theorem negY_of_zero {x y : ZMod C.fieldSize} (zero : y = 0) : y = (weierstrass C b).negY x y := by
  simp [Affine.negY, weierstrass, zero]

section Prime
variable [Fact C.fieldSize.Prime]

theorem residue_inverse {x : Fin C.fieldSize} (nonzero : residue x ≠ 0) :
    residue (inverse x) = (residue x)⁻¹ := by
  have two : 2 ≤ C.fieldSize := (Fact.out : C.fieldSize.Prime).two_le
  rw [inverse, residue_power]
  refine eq_inv_of_mul_eq_one_left ?_
  rw [← pow_succ, show C.fieldSize - 2 + 1 = C.fieldSize - 1 by omega,
    ZMod.pow_card_sub_one_eq_one nonzero]

theorem reflected_eq {slope : Fin C.fieldSize} {ℓ : ZMod C.fieldSize} (same : residue slope = ℓ)
    (x₁ y₁ x₂ : ZMod C.fieldSize) :
    Point.reflected slope (ofResidue x₁) (ofResidue y₁) (ofResidue x₂) =
      .affine (ofResidue ((weierstrass C b).addX x₁ x₂ ℓ))
        (ofResidue ((weierstrass C b).addY x₁ x₂ y₁ ℓ)) := by
  have third : ofResidue ((weierstrass C b).addX x₁ x₂ ℓ) =
      slope * slope - ofResidue x₁ - ofResidue x₂ := by
    rw [ofResidue_eq_iff]
    simp [Affine.addX, weierstrass, same]
    ring
  rw [Point.reflected, Point.affine.injEq, ← third]
  refine ⟨rfl, residue_injective ?_⟩
  simp only [residue_sub, residue_mul, residue_ofResidue, same, Affine.addY,
    Affine.negAddY, Affine.negY]
  simp only [weierstrass]
  ring

theorem slope_chord {x₁ x₂ : ZMod C.fieldSize} (apart : x₁ ≠ x₂) (y₁ y₂ : ZMod C.fieldSize) :
    (weierstrass C b).slope x₁ x₂ y₁ y₂ * (x₂ - x₁) = y₂ - y₁ := by
  rw [Affine.slope_of_X_ne apart, ← neg_sub y₂, ← neg_sub x₂, neg_div_neg_eq,
    div_mul_cancel₀ _ (sub_ne_zero.mpr (Ne.symm apart))]

variable (two : (2 : ZMod C.fieldSize) ≠ 0)
include two

theorem ne_negY {x y : ZMod C.fieldSize} (nonzero : y ≠ 0) : y ≠ (weierstrass C b).negY x y := by
  intro opposite
  simp only [Affine.negY, weierstrass] at opposite
  exact mul_ne_zero two nonzero (by linear_combination opposite)

theorem slope_tangent (x : ZMod C.fieldSize) {y : ZMod C.fieldSize} (nonzero : y ≠ 0) :
    (weierstrass C b).slope x x y y * (2 * y) = 3 * x ^ 2 + C.a := by
  have vertical : y - (weierstrass C b).negY x y = 2 * y := by
    simp only [Affine.negY, weierstrass]
    ring
  rw [Affine.slope_of_Y_ne rfl (ne_negY two nonzero), vertical,
    div_mul_cancel₀ _ (mul_ne_zero two nonzero)]
  simp only [weierstrass]
  ring

theorem double_pointAt (P : (weierstrass C b).Point) : (pointAt P).double = pointAt (P + P) := by
  cases P with
  | zero => rfl
  | some x y h =>
    by_cases zero : y = 0
    · rw [Affine.Point.add_self_of_Y_eq (negY_of_zero (x := x) zero), pointAt, Point.double,
        if_pos (ofResidue_eq_iff.mpr (by rw [zero, residue_zero]))]
      rfl
    · have twice : 2 * y ≠ 0 := mul_ne_zero two zero
      have slope : residue ((3 * ofResidue x * ofResidue x + Fin.ofNat _ C.a) *
          inverse (2 * ofResidue y)) = (weierstrass C b).slope x x y y := by
        rw [residue_mul, residue_inverse (by simpa using twice)]
        simp only [residue_add, residue_mul, residue_ofResidue, residue_two, residue_three,
          residue_ofNat]
        rw [mul_assoc, ← pow_two, ← slope_tangent (b := b) two x zero, mul_inv_cancel_right₀ twice]
      rw [Affine.Point.add_self_of_Y_ne (ne_negY two zero), pointAt, Point.double,
        if_neg (by rw [ofResidue_eq_iff, residue_zero]; exact zero), reflected_eq slope]
      rfl

theorem add_pointAt (P Q : (weierstrass C b).Point) :
    (pointAt P).add (pointAt Q) = pointAt (P + Q) := by
  match P, Q with
  | .zero, Q => exact congrArg pointAt (zero_add Q).symm
  | .some x y h, .zero => exact congrArg pointAt (add_zero (Affine.Point.some x y h)).symm
  | .some x₁ y₁ h₁, .some x₂ y₂ h₂ =>
    by_cases sameX : x₁ = x₂
    -- with the same abscissa the points are equal or opposite
    · subst sameX
      by_cases sameY : y₁ = y₂
      · subst sameY
        rw [← double_pointAt two]
        simp only [pointAt, Point.add, if_true]
      · have opposite : y₁ = (weierstrass C b).negY x₁ y₂ :=
          (Affine.Y_eq_of_X_eq h₁.1 h₂.1 rfl).resolve_left sameY
        have distinct : ofResidue y₁ ≠ ofResidue y₂ := by
          rwa [Ne, ofResidue_eq_iff, residue_ofResidue]
        rw [Affine.Point.add_of_Y_eq rfl opposite, pointAt, pointAt, Point.add, if_pos rfl,
          if_neg distinct]
        rfl
    · have apart : x₂ - x₁ ≠ 0 := sub_ne_zero.mpr (Ne.symm sameX)
      have slope : residue ((ofResidue y₂ - ofResidue y₁) * inverse (ofResidue x₂ - ofResidue x₁)) =
          (weierstrass C b).slope x₁ x₂ y₁ y₂ := by
        rw [residue_mul, residue_inverse (by simpa using apart)]
        simp only [residue_sub, residue_ofResidue]
        rw [← slope_chord (b := b) sameX, mul_inv_cancel_right₀ apart]
      have distinct : ofResidue x₁ ≠ ofResidue x₂ := by
        rwa [Ne, ofResidue_eq_iff, residue_ofResidue]
      rw [Affine.Point.add_of_X_ne sameX, pointAt, pointAt, Point.add, if_neg distinct,
        reflected_eq slope]
      rfl

theorem multiple_pointAt (k : Nat) (P : (weierstrass C b).Point) :
    Point.multiple k (pointAt P) = pointAt (k • P) := by
  refine foldl_bits (fun n q => q = pointAt (n • P)) (fun n q bit h => ?_) ?_ k
  · have doubled : q.double = pointAt ((2 * n) • P) := by
      rw [h, double_pointAt two, two_mul, add_nsmul]
    cases bit with
    | true =>
      rw [if_pos rfl, doubled, add_pointAt two, Bool.toNat_true, succ_nsmul]
    | false => rw [if_neg Bool.false_ne_true, doubled, Bool.toNat_false, Nat.add_zero]
  · rw [zero_nsmul, pointAt_zero]

end Prime
end DeviceRegistry.Curve
