import DeviceRegistry.Crypto.Secp256k1
import Mathlib.Data.List.Prime
import Mathlib.NumberTheory.LucasPrimality

/-! The two primes of secp256k1: the size of its field and the order of its generator. By Lucas a
number is prime when some root has an order of one less than it, and that takes the prime factors of
the number before. A certificate names root and factors; the factors have certificates of their own,
down to numbers that are small enough to be divided. -/
namespace DeviceRegistry.Primality

/-- The power modulo `m`, for an exponent of so many binary digits. -/
def powMod (m : Nat) : Nat → Nat → Nat → Nat
  | 0, _, _ => 1 % m
  | digits + 1, x, k =>
    let rest := powMod m digits (x * x % m) (k / 2)
    if k % 2 = 1 then x * rest % m else rest

theorem powMod_cast (m digits x k : Nat) (fits : k < 2 ^ digits) :
    (powMod m digits x k : ZMod m) = (x : ZMod m) ^ k := by
  induction digits generalizing x k with
  | zero =>
    obtain rfl : k = 0 := by simpa using fits
    simp [powMod]
  | succ digits ih =>
    have half : k / 2 < 2 ^ digits := by
      rw [Nat.pow_succ] at fits
      omega
    have rest : (powMod m digits (x * x % m) (k / 2) : ZMod m) = (x : ZMod m) ^ (2 * (k / 2)) := by
      rw [ih _ _ half, ZMod.natCast_mod, Nat.cast_mul, ← pow_two, pow_mul]
    rw [powMod]
    split
    next odd =>
      rw [ZMod.natCast_mod, Nat.cast_mul, rest, ← pow_succ', show 2 * (k / 2) + 1 = k by omega]
    next even => rw [rest, show 2 * (k / 2) = k by omega]

theorem powMod_lt {m : Nat} (pos : 0 < m) (digits x k : Nat) : powMod m digits x k < m := by
  induction digits generalizing x k with
  | zero => exact Nat.mod_lt _ pos
  | succ digits ih =>
    rw [powMod]
    split
    · exact Nat.mod_lt _ pos
    · exact ih _ _

/-- The power of a root modulo a number, for exponents below that number. -/
def rootPower (number root k : Nat) : Nat := powMod number (number.log2 + 1) root k

theorem rootPower_eq_one_iff {number root k : Nat} (two : 2 ≤ number) (below : k < number) :
    rootPower number root k = 1 ↔ (root : ZMod number) ^ k = 1 := by
  have power := powMod_cast number _ root k (below.trans Nat.lt_log2_self)
  have small : powMod number (number.log2 + 1) root k < number := powMod_lt (by omega) _ _ _
  rw [rootPower, ← power]
  constructor
  · intro one
    rw [one, Nat.cast_one]
  · intro one
    have same := (ZMod.natCast_eq_natCast_iff' _ 1 _).mp (one.trans Nat.cast_one.symm)
    rwa [Nat.mod_eq_of_lt small, Nat.mod_eq_of_lt (by omega)] at same

/-- Nothing from `d` up to its square root divides `q`, as far as so many steps can tell. -/
def undivided (q : Nat) : Nat → Nat → Bool
  | 0, _ => false
  | steps + 1, d => q < d * d || (q % d != 0 && undivided q steps (d + 1))

theorem not_dvd_of_undivided {q steps d m : Nat} (h : undivided q steps d = true) (reach : d ≤ m)
    (square : m * m ≤ q) : ¬m ∣ q := by
  induction steps generalizing d with
  | zero => contradiction
  | succ steps ih =>
    rw [undivided, Bool.or_eq_true, decide_eq_true_iff, Bool.and_eq_true, bne_iff_ne] at h
    rcases h with past | ⟨left, later⟩
    · have := Nat.mul_le_mul reach reach
      omega
    · rcases Nat.eq_or_lt_of_le reach with rfl | beyond
      · exact fun divides => left (Nat.mod_eq_zero_of_dvd divides)
      · exact ih later beyond

/-- Primes below `10 ^ 5`, found by division. -/
def isSmallPrime (q : Nat) : Bool := 2 ≤ q && undivided q 317 2

theorem prime_of_isSmallPrime {q : Nat} (h : isSmallPrime q = true) : q.Prime := by
  rw [isSmallPrime, Bool.and_eq_true, decide_eq_true_iff] at h
  obtain ⟨two, undivided⟩ := h
  by_contra composite
  have least : q.minFac.Prime := Nat.minFac_prime (by omega)
  have square := Nat.minFac_sq_le_self (by omega) composite
  rw [pow_two] at square
  exact not_dvd_of_undivided undivided least.two_le square (Nat.minFac_dvd q)

/-- A root of a number, and the prime factors of the number before. -/
structure Certificate where
  number : Nat
  root : Nat
  factors : List Nat

namespace Certificate

/-- Lucas's test, given primes of which the factors may be. -/
def check (primes : List Nat) (c : Certificate) : Bool :=
  2 ≤ c.number && c.factors.prod + 1 == c.number &&
    c.factors.all (fun q => primes.contains q || isSmallPrime q) &&
    rootPower c.number c.root (c.number - 1) == 1 &&
    c.factors.all fun q => rootPower c.number c.root ((c.number - 1) / q) != 1

theorem prime_of_check {primes : List Nat} {c : Certificate} (known : ∀ q ∈ primes, q.Prime)
    (h : c.check primes = true) : c.number.Prime := by
  simp only [check, Bool.and_eq_true, decide_eq_true_eq, beq_iff_eq, List.all_eq_true,
    Bool.or_eq_true, List.contains_iff_mem, bne_iff_ne] at h
  obtain ⟨⟨⟨⟨two, product⟩, factors⟩, full⟩, proper⟩ := h
  have prime : ∀ q ∈ c.factors, q.Prime := fun q member =>
    (factors q member).elim (known q) prime_of_isSmallPrime
  refine lucas_primality c.number c.root ((rootPower_eq_one_iff two (by omega)).mp full) ?_
  intro q hq divides
  have member : q ∈ c.factors := by
    refine mem_list_primes_of_dvd_prod hq.prime (fun r hr => (prime r hr).prime) ?_
    rwa [← product, Nat.add_sub_cancel] at divides
  have below : (c.number - 1) / q < c.number :=
    (Nat.div_le_self _ _).trans_lt (by omega)
  exact fun one => proper q member ((rootPower_eq_one_iff two below).mpr one)

/-- Every certificate may build on those that follow it. -/
def checkAll : List Certificate → Bool
  | [] => true
  | c :: rest => c.check (rest.map number) && checkAll rest

theorem prime_of_checkAll {cs : List Certificate} (h : checkAll cs = true) :
    ∀ c ∈ cs, c.number.Prime := by
  induction cs with
  | nil => nofun
  | cons c rest ih =>
    obtain ⟨first, later⟩ := Bool.and_eq_true_iff.mp h
    have known := ih later
    intro d member
    rcases List.mem_cons.mp member with rfl | member
    · exact prime_of_check (by simpa using known) first
    · exact known d member

/-- The certificates of both primes, and of the larger factors. -/
def secp256k1Primes : List Certificate :=
  [⟨secp256k1.fieldSize, 3, [2, 3, 7, 13441,
      205115282021455665897114700593932402728804164701536103180137503955397371]⟩,
    ⟨secp256k1.order, 7, [2, 2, 2, 2, 2, 2, 3, 149, 631, 107361793816595537, 174723607534414371449,
      341948486974166000522343609283189]⟩,
    ⟨205115282021455665897114700593932402728804164701536103180137503955397371, 10, [2, 3, 5, 29, 29,
      31, 7723, 132896956044521568488119, 255515944373312847190720520512484175977]⟩,
    ⟨255515944373312847190720520512484175977, 3, [2, 2, 2, 7, 7, 11, 1627, 2657, 4423, 41201, 96557,
      7240687, 107590001]⟩,
    ⟨341948486974166000522343609283189, 2, [2, 2, 3, 3, 3, 109, 29047611873442575647497758179]⟩,
    ⟨29047611873442575647497758179, 2, [2, 293, 305873, 545358713, 297159362677]⟩,
    ⟨132896956044521568488119, 6, [2, 3, 22149492674086928081353]⟩,
    ⟨22149492674086928081353, 5, [2, 2, 2, 3, 5323, 173378833005251801]⟩,
    ⟨174723607534414371449, 3, [2, 2, 2, 17, 59, 4051, 120233, 44706919]⟩,
    ⟨173378833005251801, 6, [2, 2, 2, 5, 5, 2621, 24809, 13331831]⟩,
    ⟨107361793816595537, 3, [2, 2, 2, 2, 16699, 85831, 4681609]⟩,
    ⟨297159362677, 2, [2, 2, 3, 3, 11, 461, 1627771]⟩,
    ⟨545358713, 5, [2, 2, 2, 41, 59, 28181]⟩,
    ⟨107590001, 3, [2, 2, 2, 2, 5, 5, 5, 5, 7, 29, 53]⟩,
    ⟨44706919, 6, [2, 3, 797, 9349]⟩,
    ⟨13331831, 13, [2, 5, 971, 1373]⟩,
    ⟨7240687, 3, [2, 3, 1206781]⟩,
    ⟨4681609, 23, [2, 2, 2, 3, 97, 2011]⟩,
    ⟨1627771, 3, [2, 3, 5, 29, 1871]⟩,
    ⟨1206781, 10, [2, 2, 3, 5, 20113]⟩,
    ⟨305873, 3, [2, 2, 2, 2, 7, 2731]⟩,
    ⟨120233, 3, [2, 2, 2, 7, 19, 113]⟩]

theorem checkAll_secp256k1Primes : checkAll secp256k1Primes = true := by decide +kernel

end Certificate
open Certificate

theorem prime_fieldSize : secp256k1.fieldSize.Prime :=
  prime_of_checkAll checkAll_secp256k1Primes ⟨_, _, _⟩ (.head _)

theorem prime_order : secp256k1.order.Prime :=
  prime_of_checkAll checkAll_secp256k1Primes ⟨_, _, _⟩ (.tail _ (.head _))

end DeviceRegistry.Primality
