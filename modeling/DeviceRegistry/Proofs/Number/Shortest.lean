import DeviceRegistry.Proofs.Number.Rounding
import DeviceRegistry.Proofs.Text.Bytes

/-! The shortest numeral of a finite number rounds to that number again. A layout writes digits,
a point and perhaps an exponent; the forms below are what a reader has to deal with. -/
namespace DeviceRegistry.Binary64
open Bytes

theorem shortestNumeral_code {c : Nat} (finite : c < infinityCode) :
    (shortestNumeral c).code = c := by
  unfold shortestNumeral
  split
  next h => simp [Decimal.code, h]
  next h =>
    simp only [Option.getD]
    split
    next x found =>
      obtain ⟨n, -, hn⟩ := List.exists_of_findSome?_eq_some found
      simpa using List.find?_some hn
    next => exact Decimal.code_exact finite

theorem dropZeros_eq (fuel digits : Nat) (e : Int) :
    ∃ places : Nat, digits = (dropZeros fuel digits e).1 * 10 ^ places ∧
      e = (dropZeros fuel digits e).2 - places := by
  induction fuel generalizing digits e with
  | zero => exact ⟨0, by simp [dropZeros]⟩
  | succ fuel ih =>
    rw [dropZeros]
    split
    next h =>
      obtain ⟨places, hd, he⟩ := ih (digits / 10) (e + 1)
      refine ⟨places + 1, ?_, by omega⟩
      rw [Nat.pow_succ, ← Nat.mul_assoc, ← hd]
      omega
    next => exact ⟨0, by simp⟩

theorem ofCode_code (x : Binary64) : ofCode x.isNegative (code x) = x := by
  rcases x with ⟨bits⟩
  have bound := bits.toNat_lt
  simp only [ofCode, isNegative, code, signPlace_eq, Binary64.mk.injEq, ← UInt64.toNat_inj]
  split
  next h =>
    have := of_decide_eq_true h
    simp
    omega
  next h =>
    have : ¬ 2 ^ 63 ≤ bits.toNat := by simpa using h
    simp
    omega

/-- The digits that a number is written with stand for its code. -/
theorem code_dropZeros (negative : Bool) {c : Nat} (finite : c < infinityCode) :
    let numeral := shortestNumeral c
    let written := dropZeros 800 numeral.digits numeral.exponent
    Decimal.code ⟨negative, written.1, written.2⟩ = c := by
  intro numeral written
  obtain ⟨places, hd, he⟩ := dropZeros_eq 800 numeral.digits numeral.exponent
  rw [← Decimal.code_shift numeral.negative negative written.1 places written.2]
  have same : (⟨numeral.negative, written.1 * 10 ^ places, written.2 - places⟩ : Decimal) =
      numeral := by
    rw [← hd, ← he]
  rw [same, shortestNumeral_code finite]

/-- The whole part of a numeral: a zero alone, or digits that begin with another one. -/
def IsWhole (cs : List Char) : Prop :=
  cs ≠ [] ∧ (∀ c ∈ cs, c.isDigit = true) ∧ (cs.head? = some '0' → cs = ['0'])

/-- Digits before and behind a point, with an exponent behind them or without one. -/
structure Written where
  whole : List Char
  fraction : List Char
  exponent : Option Int

/-- Some digits stand behind the point, or there is no point. -/
structure Written.WellFormed (w : Written) : Prop where
  whole : IsWhole w.whole
  fraction : ∀ c ∈ w.fraction, c.isDigit = true
  real : w.fraction ≠ [] ∨ w.exponent.isSome

def exponentChars (k : Int) : List Char :=
  'e' :: (if k < 0 then '-' else '+') :: decimalDigits k.natAbs

def Written.chars (w : Written) : List Char :=
  w.whole ++ (if w.fraction = [] then [] else '.' :: w.fraction) ++
    (w.exponent.map exponentChars).getD []

def Written.numeral (w : Written) (negative : Bool) : Decimal :=
  ⟨negative, Nat.ofDigitChars 10 (w.whole ++ w.fraction) 0, w.exponent.getD 0 - w.fraction.length⟩

theorem isWhole_decimalDigits (n : Nat) : IsWhole (decimalDigits n) := by
  refine ⟨decimalDigits.ne_nil n, fun _ => decimalDigits.isDigit, ?_⟩
  intro h
  by_cases hn : n = 0
  · rw [hn, decimalDigits, Nat.toDigits_zero]
  · exact absurd h (decimalDigits.head_ne_zero hn)

theorem isWhole_append {cs ds : List Char} (h : IsWhole cs) (positive : cs ≠ ['0'])
    (digits : ∀ c ∈ ds, c.isDigit = true) : IsWhole (cs ++ ds) := by
  obtain ⟨c, rest, rfl⟩ := List.exists_cons_of_ne_nil h.1
  refine ⟨by simp, fun d hd => ?_, fun zero => ?_⟩
  · rcases List.mem_append.1 hd with hd | hd
    · exact h.2.1 d hd
    · exact digits d hd
  · exact absurd (h.2.2 (by simpa using zero)) positive

theorem ofDigitChars_decimalDigits (n : Nat) : Nat.ofDigitChars 10 (decimalDigits n) 0 = n :=
  Nat.ofDigitChars_ten_toDigits

theorem isWhole_zero : IsWhole ['0'] := ⟨by simp, by simp, fun _ => rfl⟩

theorem decimalDigits_ne_zero {n : Nat} (hn : n ≠ 0) : decimalDigits n ≠ ['0'] := by
  intro h
  exact decimalDigits.head_ne_zero hn (by rw [h]; rfl)

theorem isWhole_take {n k : Nat} (hn : n ≠ 0) (hk : 0 < k) : IsWhole ((decimalDigits n).take k) := by
  obtain ⟨c, rest, hc⟩ := List.exists_cons_of_ne_nil (decimalDigits.ne_nil n)
  have nonzero := decimalDigits.head_ne_zero hn
  obtain ⟨k, rfl⟩ := Nat.exists_eq_succ_of_ne_zero hk.ne'
  refine ⟨by simp [hc], fun d hd => decimalDigits.isDigit (List.mem_of_mem_take hd), ?_⟩
  intro zero
  rw [hc] at nonzero zero
  exact absurd zero nonzero

/-- The digits in front of the point and behind it, for a point inside the digits. -/
theorem written_inside {n p : Nat} {e : Int} (hn : n ≠ 0) (hp : 0 < p)
    (place : (p : Int) = (decimalDigits n).length + e) (he : e < 0) :
    let w : Written := ⟨(decimalDigits n).take p, (decimalDigits n).drop p, none⟩
    w.WellFormed ∧ ∀ negative, w.numeral negative = ⟨negative, n, e⟩ := by
  intro w
  refine ⟨⟨isWhole_take hn hp, fun c hc => decimalDigits.isDigit (List.mem_of_mem_drop hc), .inl ?_⟩,
    fun negative => ?_⟩
  · intro none
    have := List.drop_eq_nil_iff.1 none
    omega
  · simp only [w, Written.numeral, List.take_append_drop, ofDigitChars_decimalDigits,
      List.length_drop, Option.getD_none, Decimal.mk.injEq, true_and]
    omega

/-- The digits with zeros up to the point, and a zero behind it. -/
theorem written_padded {n k : Nat} (hn : n ≠ 0) :
    let w : Written := ⟨decimalDigits n ++ List.replicate k '0', ['0'], none⟩
    w.WellFormed ∧
      ∀ negative, w.numeral negative = ⟨negative, n * 10 ^ (k + 1), (k : Int) - (k + 1 : Nat)⟩ := by
  intro w
  refine ⟨⟨isWhole_append (isWhole_decimalDigits n) (decimalDigits_ne_zero hn) ?_, by simp [w],
    .inl (by simp [w])⟩, fun negative => ?_⟩
  · intro c hc
    rw [List.eq_of_mem_replicate hc]
    rfl
  · simp only [w, Written.numeral, Option.getD_none, Decimal.mk.injEq, true_and, List.append_assoc]
    rw [show List.replicate k '0' ++ ['0'] = List.replicate (k + 1) '0' from
      List.replicate_succ'.symm, Nat.ofDigitChars_append, ofDigitChars_decimalDigits,
      Nat.ofDigitChars_replicate_zero]
    exact ⟨Nat.mul_comm _ _, by simp⟩

/-- A zero in front of the point, and zeros and the digits behind it. -/
theorem written_behind {n k : Nat} {e : Int}
    (place : e = -(k + (decimalDigits n).length : Nat)) :
    let w : Written := ⟨['0'], List.replicate k '0' ++ decimalDigits n, none⟩
    w.WellFormed ∧ ∀ negative, w.numeral negative = ⟨negative, n, e⟩ := by
  intro w
  refine ⟨⟨isWhole_zero, fun c hc => ?_, .inl (by simp [w, decimalDigits.ne_nil])⟩,
    fun negative => ?_⟩
  · rcases List.mem_append.1 hc with hc | hc
    · rw [List.eq_of_mem_replicate hc]
      rfl
    · exact decimalDigits.isDigit hc
  · simp only [w, Written.numeral, Option.getD_none, Decimal.mk.injEq, true_and]
    rw [← List.append_assoc, show ['0'] ++ List.replicate k '0' = List.replicate (k + 1) '0' from rfl,
      Nat.ofDigitChars_append, Nat.ofDigitChars_replicate_zero, Nat.mul_zero,
      ofDigitChars_decimalDigits, place]
    simp

/-- One digit in front of the point, and an exponent. -/
theorem written_scientific {n : Nat} {e k : Int} (hn : n ≠ 0)
    (place : k = (decimalDigits n).length + e - 1) :
    let w : Written := ⟨(decimalDigits n).take 1, (decimalDigits n).drop 1, some k⟩
    w.WellFormed ∧ ∀ negative, w.numeral negative = ⟨negative, n, e⟩ := by
  intro w
  refine ⟨⟨isWhole_take hn Nat.one_pos, fun c hc => decimalDigits.isDigit (List.mem_of_mem_drop hc),
    .inr rfl⟩, fun negative => ?_⟩
  have := List.length_pos_iff.2 (decimalDigits.ne_nil n)
  simp only [w, Written.numeral, List.take_append_drop, ofDigitChars_decimalDigits,
    List.length_drop, Option.getD_some, Decimal.mk.injEq, true_and]
  omega

theorem Written.WellFormed.ascii {w : Written} (h : w.WellFormed) : IsAscii w.chars := by
  refine ((ascii_of_isDigit h.whole.2.1).append ?_).append ?_
  · split
    · simp [IsAscii]
    · have point : IsAscii ['.'] := by simp [IsAscii]
      exact point.append (ascii_of_isDigit h.fraction)
  · cases w.exponent with
    | none => simp [IsAscii]
    | some k =>
      have mark : IsAscii ['e', if k < 0 then '-' else '+'] := by split <;> simp [IsAscii]
      exact mark.append (ascii_decimalDigits _)

theorem toList_exponent (k : Int) :
    ("e" ++ (if k < 0 then "-" else "+") ++ toString k.natAbs).toList = exponentChars k := by
  simp only [String.toList_append, toList_toString_nat, exponentChars]
  split <;> rfl

theorem toList_take (s : String) (k : Nat) : (s.take k).toString.toList = s.toList.take k := by
  simp [String.Slice.toString_eq]

theorem toList_drop (s : String) (k : Nat) : (s.drop k).toString.toList = s.toList.drop k := by
  simp [String.Slice.toString_eq]

/-- What the layout writes for a number's digits is a well-formed numeral of the same value. -/
theorem layout_text {n : Nat} (hn : n ≠ 0) (e : Int) :
    ∃ w : Written, w.WellFormed ∧ (standardLayout.text n e).toList = w.chars ∧
      ∃ places : Nat, ∀ negative, w.numeral negative = ⟨negative, n * 10 ^ places, e - places⟩ := by
  have size : (toString n).length = (decimalDigits n).length := by
    rw [← String.length_toList, toList_toString_nat]
  have some := List.length_pos_iff.2 (decimalDigits.ne_nil n)
  unfold Layout.text
  simp only [size, standardLayout]
  split
  next h =>
    obtain ⟨wellFormed, value⟩ := written_padded (k := e.toNat) hn
    refine ⟨_, wellFormed, ?_, e.toNat + 1, fun negative => ?_⟩
    · simp only [String.toList_append, toList_toString_nat, toList_pushn, Written.chars]
      simp
    · rw [value, show (e.toNat : Int) = e by omega]
  next outside =>
  split
  next h =>
    have he : e < 0 := by omega
    obtain ⟨wellFormed, value⟩ := written_inside (p := (decimalDigits n).length + e |>.toNat) hn
      (by omega) (by omega) he
    refine ⟨_, wellFormed, ?_, 0, fun negative => (value negative).trans (by simp)⟩
    have behind := wellFormed.real.resolve_right (by simp)
    simp only [String.toList_append, toList_toString_nat, toList_take, toList_drop, Written.chars,
      if_neg behind]
    simp
  next =>
  split
  next h =>
    obtain ⟨wellFormed, value⟩ := written_behind (n := n) (e := e)
      (k := (-((decimalDigits n).length + e)).toNat) (by omega)
    refine ⟨_, wellFormed, ?_, 0, fun negative => (value negative).trans (by simp)⟩
    have behind := wellFormed.real.resolve_right (by simp)
    simp only [String.toList_append, toList_toString_nat, toList_pushn, Written.chars,
      if_neg behind]
    simp
  next =>
    obtain ⟨wellFormed, value⟩ := written_scientific (n := n) (e := e)
      (k := (decimalDigits n).length + e - 1) hn rfl
    refine ⟨_, wellFormed, ?_, 0, fun negative => (value negative).trans (by simp)⟩
    simp only [Written.chars, Option.map_some, Option.getD_some, ← toList_exponent,
      String.toList_append, ← List.append_assoc]
    congr 3
    split
    next single =>
      obtain ⟨c, hc⟩ := List.length_eq_one_iff.1 single
      rw [toList_toString_nat, hc]
      rfl
    next several =>
      have behind : (decimalDigits n).drop 1 ≠ [] := by
        intro none
        have := List.drop_eq_nil_iff.1 none
        omega
      simp only [String.toList_append, toList_toString_nat, toList_take, toList_drop, if_neg behind]
      simp

/-- The text of a finite number: its sign in front of a numeral that rounds to its code. -/
theorem text_written {x : Binary64} (finite : x.isFinite = true) :
    ∃ w : Written, w.WellFormed ∧ (w.numeral x.isNegative).code = code x ∧
      x.text.toList = (if x.isNegative then ['-'] else []) ++ w.chars := by
  have bound : code x < infinityCode := of_decide_eq_true finite
  have value := code_dropZeros x.isNegative bound
  unfold text
  dsimp only at value ⊢
  generalize dropZeros 800 _ _ = written at value ⊢
  rcases written with ⟨n, e⟩
  have sign : (if x.isNegative then "-" else "").toList = if x.isNegative then ['-'] else [] := by
    split <;> rfl
  by_cases hn : n = 0
  · refine ⟨⟨['0'], ['0'], none⟩, ⟨isWhole_zero, by simp, .inl (by simp)⟩, ?_, ?_⟩
    · simp only [hn, Decimal.code] at value
      simpa [Written.numeral, Decimal.code, Nat.ofDigitChars] using value
    · rw [String.toList_append, sign, if_pos hn]
      rfl
  · obtain ⟨w, wellFormed, written, places, numeral⟩ := layout_text hn e
    refine ⟨w, wellFormed, ?_, ?_⟩
    · rw [numeral, Decimal.code_shift _ x.isNegative]
      exact value
    · rw [String.toList_append, sign, if_neg hn, written]

end DeviceRegistry.Binary64
