import DeviceRegistry.Number.Shortest
import Mathlib.Tactic.Ring
import Mathlib.Tactic.Linarith
import Mathlib.Tactic.NormNum

/-! Rounding depends on the value of a numeral alone: a quotient may be scaled, and a numeral may
carry zeros at its end. The exact numeral of a code rounds to that code. -/
namespace DeviceRegistry.Binary64

theorem fractionCount_eq : fractionCount = 2 ^ 52 := by decide
theorem signPlace_eq : signPlace = 2 ^ 63 := by decide

theorem oneUnits_eq : ∃ k, k = 1074 ∧ oneUnits = 2 ^ k := by
  unfold oneUnits
  generalize 1074 = k
  exact ⟨k, rfl, Nat.pow_eq⟩

theorem div_scale (n d k : Nat) (hk : 0 < k) : n * k / (d * k) = n / d :=
  Nat.mul_div_mul_right n d hk

theorem divNearest_scale (n d k : Nat) (hk : 0 < k) :
    divNearest (n * k) (d * k) = divNearest n d := by
  have less : 2 * (n % d * k) < d * k ↔ 2 * (n % d) < d := by
    rw [← Nat.mul_assoc]
    exact Nat.mul_lt_mul_right hk
  have half : 2 * (n % d * k) = d * k ↔ 2 * (n % d) = d := by
    rw [← Nat.mul_assoc]
    exact Nat.mul_left_inj hk.ne'
  simp only [divNearest, div_scale n d k hk, Nat.mul_mod_mul_right, less, half]

theorem nearestCode_scale (n d k : Nat) (hk : 0 < k) :
    nearestCode (n * k) (d * k) = nearestCode n d := by
  have numerator : n * k * oneUnits = n * oneUnits * k := by ring
  have denominator (s : Nat) : d * k * Nat.pow 2 s = d * Nat.pow 2 s * k := by ring
  simp only [nearestCode, numerator, denominator, div_scale _ _ k hk, divNearest_scale _ _ k hk]

theorem nearestCode_congr {n d n' d' : Nat} (hd : 0 < d) (hd' : 0 < d') (h : n * d' = n' * d) :
    nearestCode n d = nearestCode n' d' := by
  rw [← nearestCode_scale n d d' hd', h, Nat.mul_comm d d', nearestCode_scale n' d' d hd]

theorem divNearest_of_dvd (q d : Nat) (hd : 0 < d) : divNearest (q * d) d = q := by
  simp [divNearest, Nat.mul_mod_left, Nat.mul_div_cancel q hd, hd]

theorem le_divNearest (n d : Nat) : n / d ≤ divNearest n d := by
  simp only [divNearest]
  split <;> try split
  all_goals omega

theorem divNearest_le (n d : Nat) : divNearest n d ≤ n / d + 1 := by
  simp only [divNearest]
  split <;> try split
  all_goals omega

/-- What a whole number of units rounds to, by its position among the powers of two. -/
theorem nearestCode_units (u n d : Nat) (hd : 0 < d) (whole : n * oneUnits = u * d) :
    nearestCode n d =
      min ((Nat.log2 u - 52) * fractionCount + divNearest u (Nat.pow 2 (Nat.log2 u - 52)))
        infinityCode := by
  simp only [nearestCode, whole, Nat.mul_div_cancel u hd]
  rw [Nat.mul_comm u d, Nat.mul_comm d (Nat.pow 2 _), Nat.mul_comm d u,
    divNearest_scale u _ d hd]

theorem log2_of_bounds {n k : Nat} (low : 2 ^ k ≤ n) (high : n < 2 ^ (k + 1)) :
    Nat.log2 n = k := by
  have hn : n ≠ 0 := by
    have := Nat.two_pow_pos k
    omega
  have atLeast := (Nat.le_log2 hn).2 low
  have below := (Nat.log2_lt hn).2 high
  omega

theorem round_units {c : Nat} (finite : c < infinityCode) :
    min ((Nat.log2 (units c) - 52) * fractionCount +
      divNearest (units c) (Nat.pow 2 (Nat.log2 (units c) - 52))) infinityCode = c := by
  by_cases small : c < fractionCount
  · have low : Nat.log2 c - 52 = 0 := by
      by_cases hc : c = 0
      · simp [hc]
      · have := (Nat.log2_lt hc).2 (by rwa [fractionCount_eq] at small)
        omega
    have whole := divNearest_of_dvd c 1 Nat.one_pos
    rw [Nat.mul_one] at whole
    simp only [units, if_pos small, low, Nat.zero_mul, Nat.zero_add, Nat.pow_eq, Nat.pow_zero,
      whole]
    omega
  · have positive : 0 < fractionCount := by decide
    have rest : c % fractionCount < fractionCount := Nat.mod_lt _ positive
    obtain ⟨e, he⟩ : ∃ e, c / fractionCount = e + 1 := by
      apply Nat.exists_eq_succ_of_ne_zero
      have := (Nat.one_le_div_iff positive).2 (Nat.not_lt.1 small)
      exact Nat.ne_of_gt this
    have position : c = e * fractionCount + (fractionCount + c % fractionCount) := by
      have := Nat.div_add_mod c fractionCount
      rw [he, Nat.mul_comm, Nat.succ_mul] at this
      omega
    have magnitude : units c = (fractionCount + c % fractionCount) * 2 ^ e := by
      rw [units, if_neg small, he, Nat.add_sub_cancel, Nat.pow_eq]
    have low : 2 ^ (52 + e) ≤ units c := by
      rw [magnitude, Nat.pow_add, ← fractionCount_eq]
      exact Nat.mul_le_mul_right _ (Nat.le_add_right _ _)
    have high : units c < 2 ^ (52 + e + 1) := by
      have : fractionCount + c % fractionCount < 2 ^ 53 := by
        rw [fractionCount_eq] at rest ⊢
        omega
      rw [magnitude, show 52 + e + 1 = 53 + e by omega, Nat.pow_add]
      exact Nat.mul_lt_mul_of_pos_right this (Nat.two_pow_pos e)
    have place : Nat.log2 (units c) - 52 = e := by
      rw [log2_of_bounds low high, Nat.add_sub_cancel_left]
    rw [place, magnitude, Nat.pow_eq, divNearest_of_dvd _ _ (Nat.two_pow_pos e), ← position]
    exact Nat.min_eq_left finite.le

theorem nearestCode_of_units {c n d : Nat} (finite : c < infinityCode) (hd : 0 < d)
    (whole : n * oneUnits = units c * d) : nearestCode n d = c := by
  rw [nearestCode_units _ n d hd whole, round_units finite]

/-- A quotient from `2^1024` on is beyond the finite numbers. -/
theorem nearestCode_of_large {n d b : Nat} (hd : 0 < d) (hb : 1024 ≤ b) (large : 2 ^ b * d ≤ n) :
    nearestCode n d = infinityCode := by
  obtain ⟨k, hk, unit⟩ := oneUnits_eq
  have quotient : 2 ^ (b + k) ≤ n * oneUnits / d := by
    rw [Nat.le_div_iff_mul_le hd, unit, Nat.pow_add, Nat.mul_right_comm]
    exact Nat.mul_le_mul_right _ large
  have hq : n * oneUnits / d ≠ 0 := by
    have := Nat.two_pow_pos (b + k)
    omega
  let shift := Nat.log2 (n * oneUnits / d) - 52
  have place : 2046 ≤ shift := by
    have := (Nat.le_log2 hq).2 quotient
    omega
  have significand : fractionCount ≤ divNearest (n * oneUnits) (d * Nat.pow 2 shift) := by
    refine le_trans ?_ (le_divNearest _ _)
    rw [Nat.pow_eq, ← Nat.div_div_eq_div_mul, Nat.le_div_iff_mul_le (Nat.two_pow_pos shift),
      fractionCount_eq, ← Nat.pow_add, ← Nat.le_log2 hq]
    omega
  have total : infinityCode ≤
      shift * fractionCount + divNearest (n * oneUnits) (d * Nat.pow 2 shift) := by
    have := Nat.mul_le_mul_right fractionCount place
    have : infinityCode = 2046 * fractionCount + fractionCount := by decide
    omega
  exact Nat.min_eq_right total

theorem nearestCode_of_small {n d : Nat} (small : 2 * (n * oneUnits) < d) :
    nearestCode n d = 0 := by
  have quotient : n * oneUnits / d = 0 := Nat.div_eq_of_lt (by omega)
  have rest : n * oneUnits % d = n * oneUnits := Nat.mod_eq_of_lt (by omega)
  simp [nearestCode, quotient, divNearest, rest, small]

/-- A whole number of 64 bits is far below the largest finite number. -/
theorem nearestCode_lt_infinity {n : Nat} (small : n < 2 ^ 64) : nearestCode n 1 < infinityCode := by
  obtain ⟨k, hk, unit⟩ := oneUnits_eq
  let shift := Nat.log2 (n * oneUnits / 1) - 52
  -- The significand may round up to the next power of two, but the exponent has room for it.
  have scaled : n * oneUnits < 2 ^ (shift + 53) := by
    refine Nat.lt_of_lt_of_le Nat.lt_log2_self (Nat.pow_le_pow_right (by decide) ?_)
    show Nat.log2 (n * oneUnits) + 1 ≤ Nat.log2 (n * oneUnits / 1) - 52 + 53
    rw [Nat.div_one]
    omega
  have place : shift ≤ 1086 := by
    have below : n * oneUnits < 2 ^ (64 + k) := by
      rw [unit, Nat.pow_add]
      exact Nat.mul_lt_mul_of_pos_right small (Nat.two_pow_pos k)
    show Nat.log2 (n * oneUnits / 1) - 52 ≤ 1086
    rw [Nat.div_one]
    by_cases zero : n * oneUnits = 0
    · simp [zero]
    · have := (Nat.log2_lt zero).2 below
      omega
  have significand : divNearest (n * oneUnits) (1 * Nat.pow 2 shift) ≤ 2 * fractionCount := by
    have quotient : n * oneUnits / (1 * Nat.pow 2 shift) < 2 * fractionCount := by
      rw [Nat.one_mul, Nat.pow_eq, Nat.div_lt_iff_lt_mul (Nat.two_pow_pos shift), fractionCount_eq,
        ← Nat.pow_succ', ← Nat.pow_add, Nat.add_comm]
      exact scaled
    exact Nat.le_trans (divNearest_le _ _) quotient
  have total : shift * fractionCount + 2 * fractionCount < infinityCode := by
    have := Nat.mul_le_mul_right fractionCount place
    have : infinityCode = 1086 * fractionCount + 961 * fractionCount := by decide
    have : 0 < fractionCount := by decide
    omega
  exact Nat.lt_of_le_of_lt (Nat.min_le_left _ _)
    (Nat.lt_of_le_of_lt (Nat.add_le_add_left significand _) total)

theorem code_ofCode (negative : Bool) (c : Nat) : code (ofCode negative c) = c % signPlace := by
  cases negative <;> simp only [ofCode, code, UInt64.toNat_ofNat', signPlace_eq] <;> simp

theorem isFinite_ofNat {n : Nat} (small : n < 2 ^ 64) : (ofNat n).isFinite = true := by
  rw [isFinite, decide_eq_true_iff, ofNat, code_ofCode]
  exact Nat.lt_of_le_of_lt (Nat.mod_le _ _) (nearestCode_lt_infinity small)

theorem isFinite_neg (x : Binary64) : x.neg.isFinite = x.isFinite := by
  have same : code x % signPlace = code x := Nat.mod_mod ..
  rw [isFinite, isFinite, neg, code_ofCode, same]

end DeviceRegistry.Binary64

namespace DeviceRegistry.Decimal
open Binary64

theorem two_pow_le_ten_pow {m n : Nat} (h : m ≤ 3 * n) : 2 ^ m ≤ 10 ^ n :=
  calc 2 ^ m ≤ 2 ^ (3 * n) := Nat.pow_le_pow_right (by decide) h
    _ = (2 ^ 3) ^ n := Nat.pow_mul 2 3 n
    _ ≤ 10 ^ n := Nat.pow_le_pow_left (by decide) n

/-- The two bounds on the exponent leave the answer unchanged. -/
theorem code_eq_nearestCode {x : Decimal} (hx : x.digits ≠ 0) :
    x.code = nearestCode (x.digits * 10 ^ x.exponent.toNat) (10 ^ (-x.exponent).toNat) := by
  simp only [code, if_neg hx]
  by_cases large : largeExponent < x.exponent
  · rw [if_pos large]
    simp only [largeExponent] at large
    have e : (-x.exponent).toNat = 0 := by omega
    rw [e, Nat.pow_zero]
    refine (nearestCode_of_large Nat.one_pos (b := 3 * 400) (by decide) ?_).symm
    rw [Nat.mul_one]
    calc 2 ^ (3 * 400) ≤ 10 ^ x.exponent.toNat := two_pow_le_ten_pow (by omega)
      _ ≤ x.digits * 10 ^ x.exponent.toNat := Nat.le_mul_of_pos_left _ (Nat.pos_of_ne_zero hx)
  rw [if_neg large]
  by_cases small : x.exponent + Nat.log2 x.digits < -largeExponent
  · rw [if_pos small]
    simp only [largeExponent] at small
    have e : x.exponent.toNat = 0 := by omega
    rw [e, Nat.pow_zero, Nat.mul_one]
    refine (nearestCode_of_small ?_).symm
    obtain ⟨k, hk, unit⟩ := oneUnits_eq
    have bound : x.digits < 2 ^ (Nat.log2 x.digits + 1) := (Nat.log2_lt hx).1 (Nat.lt_succ_self _)
    calc 2 * (x.digits * oneUnits) = x.digits * 2 ^ (k + 1) := by
          rw [unit, Nat.pow_succ]
          ring
      _ < 2 ^ (Nat.log2 x.digits + 1) * 2 ^ (k + 1) :=
          Nat.mul_lt_mul_of_pos_right bound (Nat.two_pow_pos _)
      _ = 2 ^ (Nat.log2 x.digits + 1 + (k + 1)) := (Nat.pow_add _ _ _).symm
      _ ≤ 10 ^ (-x.exponent).toNat := two_pow_le_ten_pow (by omega)
  rw [if_neg small]
  by_cases whole : 0 ≤ x.exponent
  · have e : (-x.exponent).toNat = 0 := by omega
    rw [if_pos whole, e, Nat.pow_zero, Nat.pow_eq]
  · have e : x.exponent.toNat = 0 := by omega
    rw [if_neg whole, e, Nat.pow_zero, Nat.mul_one, Nat.pow_eq]

/-- Zeros at the end of a numeral do not change its code. -/
theorem code_shift (negative negative' : Bool) (digits places : Nat) (e : Int) :
    code ⟨negative, digits * 10 ^ places, e - places⟩ = code ⟨negative', digits, e⟩ := by
  by_cases hd : digits = 0
  · simp [code, hd]
  · have hs : digits * 10 ^ places ≠ 0 := by positivity
    rw [code_eq_nearestCode hs, code_eq_nearestCode hd]
    apply nearestCode_congr (by positivity) (by positivity)
    simp only [Nat.mul_assoc, ← Nat.pow_add]
    congr 2
    omega

theorem code_exact {c : Nat} (finite : c < infinityCode) : code (exact c) = c := by
  obtain ⟨k, hk, unit⟩ := oneUnits_eq
  have written : exact c = ⟨false, units c * 5 ^ k, -k⟩ := by
    unfold exact
    rw [← hk, Nat.pow_eq, show (-1074 : Int) = -k by omega]
  rw [written]
  by_cases hc : units c = 0
  · have : c = 0 := by
      have h := round_units finite
      simpa [hc, divNearest] using h.symm
    simp [code, this, units, fractionCount]
  · have hd : units c * 5 ^ k ≠ 0 := Nat.mul_ne_zero hc (Nat.pow_pos (by decide)).ne'
    rw [code_eq_nearestCode hd]
    apply nearestCode_of_units finite (Nat.pow_pos (by decide))
    have whole : (-(k : Int)).toNat = 0 := by omega
    have places : (-(-(k : Int))).toNat = k := by omega
    simp only [whole, places, Nat.pow_zero, Nat.mul_one]
    rw [unit, Nat.mul_assoc, ← Nat.mul_pow]

end DeviceRegistry.Decimal
