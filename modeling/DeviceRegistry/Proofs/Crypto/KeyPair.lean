import DeviceRegistry.Crypto.KeyPair
import DeviceRegistry.Proofs.Crypto.Secp256k1
import DeviceRegistry.Proofs.Text.Base64
import DeviceRegistry.Proofs.Text.Bytes

/-! Key pairs: which random bytes make one, and what can be read from it again. -/
namespace DeviceRegistry.KeyPair
open Curve Secp256k1

/-- A draw makes the pair of its scalar. -/
theorem generate_some {secret : Bytes} (length : secret.length = secretLength) :
    generate (some secret) =
      if secp256k1.isScalar (Bytes.toNat secret) then
        .ok ⟨Base64.encode secret,
          Base64.encode (secp256k1.pointOf (Bytes.toNat secret)).compressed⟩
      else .error (.invalidScalar "signature error") := by
  have drawn : Draw.exactly? (some secret) secretLength = some secret := by
    simp [Draw.exactly?, length]
  rw [generate, drawn]

/-- Nothing is made of a failed draw, or of one of another length, and only of those. -/
theorem generate_eq_noRandomness_iff (draw : Draw) :
    generate draw = .error .noRandomness ↔
      ∀ secret, draw = some secret → secret.length ≠ secretLength := by
  constructor
  · rintro failed secret rfl length
    rw [generate_some length] at failed
    split at failed <;> cases failed
  · intro other
    have none : draw.exactly? secretLength = none := by
      cases draw with
      | none => rfl
      | some secret => simp [Draw.exactly?, other secret rfl]
    rw [generate, none]

theorem generate_eq_ok_iff (draw : Draw) (keys : KeyPair) :
    generate draw = .ok keys ↔ ∃ secret, draw = some secret ∧ secret.length = secretLength ∧
      secp256k1.isScalar (Bytes.toNat secret) = true ∧
      keys.privateKey = Base64.encode secret ∧
      keys.publicKey = Base64.encode (secp256k1.pointOf (Bytes.toNat secret)).compressed := by
  constructor
  · intro made
    have drawn : ∃ secret, draw = some secret ∧ secret.length = secretLength := by
      by_contra other
      rw [(generate_eq_noRandomness_iff draw).mpr fun secret given length =>
        other ⟨secret, given, length⟩] at made
      cases made
    obtain ⟨secret, rfl, length⟩ := drawn
    rw [generate_some length] at made
    split at made
    next scalar =>
      cases made
      exact ⟨secret, rfl, length, scalar, rfl, rfl⟩
    next => cases made
  · rintro ⟨secret, rfl, length, scalar, sameSecret, samePoint⟩
    rw [generate_some length, if_pos scalar, ← sameSecret, ← samePoint]

theorem isScalar_iff (k : Nat) : secp256k1.isScalar k = true ↔ 1 ≤ k ∧ k < addOrderOf base := by
  rw [addOrderOf_base, isScalar, decide_eq_true_iff]
  rfl

/-- The bytes that stand for a point: the parity of one coordinate, and the other in 32 digits. -/
def Compresses (bytes : Bytes) (P : Group) : Prop :=
  ∃ x y on sign digits, P = .some x y on ∧ bytes = sign :: digits ∧
    sign = (if y.val % 2 = 0 then 2 else 3) ∧ digits.length = 32 ∧ Bytes.toNat digits = x.val

theorem compresses_pointOf {k : Nat} (scalar : secp256k1.isScalar k = true) :
    Compresses (secp256k1.pointOf k).compressed (k • base) := by
  obtain ⟨x, y, on, point⟩ := nsmul_base_eq_some scalar
  have width : Point.coordinateLength secp256k1 = 32 := by decide
  have fits : x.val < Nat.pow 256 32 := x.val_lt.trans (by decide +kernel)
  refine ⟨x, y, on, _, Bytes.ofNat 32 x.val, point, ?_, rfl, Bytes.length_ofNat _ _, ?_⟩
  · rw [pointOf_eq, point, pointAt, Point.compressed, width]
    rfl
  · rw [Bytes.toNat_ofNat, Nat.mod_eq_of_lt fits]

/-- A pair is made of 32 random bytes just when their number is below the order of the generator and
not zero, and other bytes are refused. The private key holds those bytes, from which the same pair
can be made again, and the public key holds the point. -/
theorem generate_exactly :
    addOrderOf base = 0xfffffffffffffffffffffffffffffffebaaedce6af48a03bbfd25e8cd0364141 ∧
    (∀ secret : Bytes, secret.length = 32 →
      ((∃ keys, generate (some secret) = .ok keys) ↔
        1 ≤ Bytes.toNat secret ∧ Bytes.toNat secret < addOrderOf base) ∧
      ((∃ reason, generate (some secret) = .error (.invalidScalar reason)) ↔
        ¬(1 ≤ Bytes.toNat secret ∧ Bytes.toNat secret < addOrderOf base)) ∧
      ∀ keys, generate (some secret) = .ok keys →
        Base64.decode? keys.privateKey = some secret ∧
        (∃ bytes, Base64.decode? keys.publicKey = some bytes ∧
          Compresses bytes (Bytes.toNat secret • base)) ∧
        generate (Base64.decode? keys.privateKey) = .ok keys) ∧
    (∀ secret other keys otherKeys, generate (some secret) = .ok keys →
      generate (some other) = .ok otherKeys → secret ≠ other →
        keys.privateKey ≠ otherKeys.privateKey) ∧
    ∀ draw : Draw, generate draw = .error .noRandomness ↔
      ∀ secret, draw = some secret → secret.length ≠ 32 := by
  refine ⟨addOrderOf_base, fun secret length => ⟨?_, ?_, fun keys made => ?_⟩,
    fun secret other keys otherKeys made madeOther => ?_, generate_eq_noRandomness_iff⟩
  · rw [← isScalar_iff, generate_some length]
    split
    next scalar => exact iff_of_true ⟨_, rfl⟩ scalar
    next outside => exact iff_of_false nofun outside
  · rw [← isScalar_iff, generate_some length]
    split
    next scalar => exact iff_of_false nofun (not_not_intro scalar)
    next outside => exact iff_of_true ⟨_, rfl⟩ outside
  · obtain ⟨_, ⟨⟩, -, scalar, sameSecret, samePoint⟩ := (generate_eq_ok_iff _ _).mp made
    have kept : Base64.decode? keys.privateKey = some secret := by
      rw [sameSecret, Base64.decode?_encode]
    refine ⟨kept, ⟨_, ?_, compresses_pointOf scalar⟩, kept ▸ made⟩
    rw [samePoint, Base64.decode?_encode]
  · obtain ⟨_, ⟨⟩, -, -, sameSecret, -⟩ := (generate_eq_ok_iff _ _).mp made
    obtain ⟨_, ⟨⟩, -, -, sameOther, -⟩ := (generate_eq_ok_iff _ _).mp madeOther
    intro apart same
    have decoded := congrArg Base64.decode? same
    rw [sameSecret, sameOther, Base64.decode?_encode, Base64.decode?_encode] at decoded
    exact apart (Option.some.inj decoded)

/-- The least scalar, with its leading zeros, and the first number beyond the greatest. -/
theorem generate_exactly_bounds :
    (∃ keys, generate (some (List.replicate 31 0 ++ [1])) = .ok keys ∧
      Base64.decode? keys.privateKey = some (List.replicate 31 0 ++ [1])) ∧
    ∃ reason,
      generate (some (Bytes.ofNat 32 secp256k1.order)) = .error (.invalidScalar reason) := by
  have least : Bytes.toNat (List.replicate 31 0 ++ [1]) = 1 := by decide
  have beyond : Bytes.toNat (Bytes.ofNat 32 secp256k1.order) = secp256k1.order := by decide +kernel
  constructor
  · have accepted := generate_exactly.2.1 (List.replicate 31 0 ++ [1]) rfl
    obtain ⟨keys, made⟩ := accepted.1.mpr (by rw [least, generate_exactly.1]; decide)
    exact ⟨keys, made, (accepted.2.2 keys made).1⟩
  · refine (generate_exactly.2.1 _ (Bytes.length_ofNat _ _)).2.1.mpr fun range => ?_
    rw [beyond, addOrderOf_base] at range
    exact Nat.lt_irrefl _ range.2

end DeviceRegistry.KeyPair
