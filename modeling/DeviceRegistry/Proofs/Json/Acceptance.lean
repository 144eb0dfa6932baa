import DeviceRegistry.Proofs.Json.Skipping
import DeviceRegistry.Proofs.Text.Encoding
import Mathlib.Data.List.TakeWhile

/-! What is passed over in one step is a value without brackets that is spelled rightly: a text, a
numeral or one of the three words. -/
namespace DeviceRegistry.Json
open Bytes

theorem hexValue?_ascii {c : UInt8} {n : Nat} (known : hexValue? c = some n) : c.toNat < 0x80 := by
  rw [hexValue?] at known
  simp only [UInt8.le_iff_toNat_le, UInt8.toNat_ofNat] at known
  split at known
  · omega
  · split at known
    · omega
    · split at known
      · omega
      · cases known

theorem hexUnit?_ascii {a b c d : UInt8} {n : Nat} (known : hexUnit? a b c d = some n) :
    a.toNat < 0x80 ∧ b.toNat < 0x80 ∧ c.toNat < 0x80 ∧ d.toNat < 0x80 := by
  simp only [hexUnit?, Option.bind_eq_bind, Option.bind_eq_some_iff] at known
  obtain ⟨_, ha, _, hb, _, hc, _, hd, -⟩ := known
  exact ⟨hexValue?_ascii ha, hexValue?_ascii hb, hexValue?_ascii hc, hexValue?_ascii hd⟩

theorem skipTextRest_of_textRest (input acc : Bytes) {acc' rest : Bytes}
    (read : textRest input acc = .ok acc' rest) : skipTextRest input = .ok () rest := by
  fun_induction textRest input acc <;> simp_all [skipTextRest]

theorem escapeByte?_ascii {c e : UInt8} (known : escapeByte? c = some e) : c.toNat < 0x80 := by
  rw [escapeByte?] at known
  split at known
  next same => rcases same with rfl | rfl | rfl <;> decide
  next =>
    repeat
      split at known
      · next same => exact same ▸ by decide
    cases known

/-- The character that begins with a byte is that byte, or it needs no escape. -/
theorem plain_first {b : UInt8} {w rest : Bytes} {c : Char} (quote : b ≠ 0x22) (backslash : b ≠ 0x5c)
    (control : ¬ b < 0x20) (same : b :: w = String.utf8EncodeChar c ++ rest) :
    c.toNat ≠ 0x22 ∧ c.toNat ≠ 0x5c ∧ 0x20 ≤ c.toNat := by
  by_cases small : c.toNat < 0x80
  · rw [utf8_small small] at same
    cases same
    have value := toNat_ofChar_small small
    rw [← UInt8.toNat_inj.ne, value] at quote backslash
    rw [UInt8.lt_iff_toNat_lt, value] at control
    exact ⟨quote, backslash, Nat.le_of_not_lt control⟩
  · omega

/-- A step over a text: its closing quote, or code units that it spells in front of others. -/
inductive TextStep : Bytes → Bytes → Prop where
  | closed (rest : Bytes) : TextStep (0x22 :: rest) rest
  | unit {us : List Nat} {first later rest : Bytes} (some : first ≠ [])
      (spells : ∀ {us' w}, SpellsText us' w → SpellsText (us ++ us') (first ++ w))
      (text : IsText later) (passed : skipTextRest later = .ok () rest) :
      TextStep (first ++ later) rest

theorem textStep_escape {w rest : Bytes} (text : IsText (0x5c :: w))
    (passed : skipTextRest (0x5c :: w) = .ok () rest) : TextStep (0x5c :: w) rest := by
  have inside := text.tail (by decide)
  match w with
  | [] => cases passed
  | x :: w =>
    by_cases unit : x = 0x75
    · subst unit
      match w with
      | a :: b :: c :: d :: later =>
        cases digits : hexUnit? a b c d with
        | none => simp [skipTextRest, digits] at passed
        | some n =>
          obtain ⟨ha, hb, hc, hd⟩ := hexUnit?_ascii digits
          have inside := ((((inside.tail (by decide)).tail ha).tail hb).tail hc).tail hd
          exact @TextStep.unit [n] [0x5c, 0x75, a, b, c, d] later rest (by simp) (.code digits) inside
            (by simpa [skipTextRest, digits] using passed)
      | [] | [_] | [_, _] | [_, _, _] => simp [skipTextRest] at passed
    · cases known : escapeByte? x with
      | none => simp [skipTextRest, unit, known] at passed
      | some e =>
        exact @TextStep.unit [e.toNat] [0x5c, x] w rest (by simp) (.letter known)
          (inside.tail (escapeByte?_ascii known)) (by simpa [skipTextRest, unit, known] using passed)

theorem textStep_of_passed {b : UInt8} {w rest : Bytes} (text : IsText (b :: w))
    (passed : skipTextRest (b :: w) = .ok () rest) : TextStep (b :: w) rest := by
  by_cases backslash : b = 0x5c
  · subst backslash
    exact textStep_escape text passed
  by_cases quote : b = 0x22
  · subst quote
    obtain rfl : w = rest := by simpa [skipTextRest] using passed
    exact .closed w
  by_cases control : b < 0x20
  · simp [skipTextRest, backslash, quote, control] at passed
  obtain ⟨c, later, same, inside⟩ := text.first
  obtain ⟨noQuote, noBackslash, noControl⟩ := plain_first quote backslash control same
  have some : String.utf8EncodeChar c ≠ [] := by
    obtain ⟨x, xs, bytes⟩ := exists_utf8 c
    simp [bytes]
  rw [same] at passed ⊢
  rw [skipTextRest_plains (utf8_plain noQuote noBackslash noControl)] at passed
  exact .unit some (.plain noQuote noBackslash noControl) inside passed

/-- What is passed over as the inside of a text spells code units. -/
theorem skipTextRest_accepts {input rest : Bytes} (text : IsText input)
    (passed : skipTextRest input = .ok () rest) :
    ∃ us w, SpellsText us w ∧ input = w ++ 0x22 :: rest ∧ IsText rest := by
  induction size : input.length using Nat.strongRecOn generalizing input with
  | ind n ih =>
    cases input with
    | nil => cases passed
    | cons b w =>
      have step := textStep_of_passed text passed
      generalize whole : b :: w = input at step text size
      cases step with
      | closed => exact ⟨[], [], .empty, rfl, text.tail (by decide)⟩
      | @unit us first later _ some spells inside passed =>
        have shorter : later.length < n := by
          have := List.length_pos_iff.2 some
          rw [← size, List.length_append]
          omega
        obtain ⟨us', w', spelled, rfl, behind⟩ := ih _ shorter inside passed rfl
        exact ⟨_, _, spells spelled, (List.append_assoc ..).symm, behind⟩

theorem IsBlanks.ascii {b : Bytes} (blanks : IsBlanks b) : ∀ c ∈ b, c.toNat < 0x80 := by
  intro c there
  have blank := blanks c there
  simp only [isBlank, Bool.or_eq_true, beq_iff_eq] at blank
  rcases blank with ((rfl | rfl) | rfl) | rfl <;> decide

/-- A digit is the byte of a digit. -/
theorem exists_digit {b : UInt8} (digit : isDigit b = true) :
    ∃ c : Char, c.isDigit = true ∧ ofChar c = b := by
  have bounds : 0x30 ≤ b.toNat ∧ b.toNat ≤ 0x39 := by
    simpa [isDigit, UInt8.le_iff_toNat_le] using digit
  have value : (Char.ofNat b.toNat).val.toNat = b.toNat := toNat_ofNat_small (by omega)
  refine ⟨Char.ofNat b.toNat, ?_, ?_⟩
  · simp only [Char.isDigit, Bool.and_eq_true, decide_eq_true_eq, ge_iff_le,
      UInt32.le_iff_toNat_le, value]
    exact bounds
  · rw [← UInt8.toNat_inj, ofChar, UInt32.toNat_toUInt8, value]
    omega

theorem exists_digits {ds : Bytes} (all : ∀ b ∈ ds, isDigit b = true) :
    ∃ cs : List Char, (∀ c ∈ cs, c.isDigit = true) ∧ cs.map ofChar = ds := by
  induction ds with
  | nil => exact ⟨[], nofun, rfl⟩
  | cons b ds ih =>
    obtain ⟨first, later⟩ := List.forall_mem_cons.1 all
    obtain ⟨c, digit, rfl⟩ := exists_digit first
    obtain ⟨cs, digits, rfl⟩ := ih later
    exact ⟨c :: cs, List.forall_mem_cons.2 ⟨digit, digits⟩, rfl⟩

namespace Reader

/-- Blanks come first, and what is seen is what stands behind them. -/
theorem exists_token {input w : Bytes} {o : Option UInt8} (seen : peekToken? input = .ok o w) :
    o = w.head? ∧ (∀ c ∈ w.head?, isBlank c = false) ∧ ∃ b, IsBlanks b ∧ input = b ++ w := by
  cases seen
  refine ⟨rfl, fun c first => ?_, _, fun c there => List.mem_takeWhile_imp there,
    List.takeWhile_append_dropWhile.symm⟩
  have stop := List.head?_dropWhile_not isBlank input
  rw [Option.mem_def.1 first] at stop
  simpa using stop

section Numerals

variable {input rest : Bytes}

theorem skipDigits_accepts (passed : skipDigits input = .ok () rest) :
    ∃ cs : List Char, cs ≠ [] ∧ (∀ c ∈ cs, c.isDigit = true) ∧ input = cs.map ofChar ++ rest := by
  rw [skipDigits, bind_ok (peek?_eq _)] at passed
  cases input with
  | nil => cases passed
  | cons b w =>
    rw [List.head?_cons, Option.any_some] at passed
    by_cases digit : isDigit b = true
    · rw [if_pos digit] at passed
      cases passed
      have all : ∀ c ∈ (b :: w).takeWhile isDigit, isDigit c = true :=
        fun c there => List.mem_takeWhile_imp there
      obtain ⟨cs, digits, same⟩ := exists_digits all
      refine ⟨cs, ?_, digits, ?_⟩
      · rintro rfl
        rw [List.takeWhile_cons_of_pos digit] at same
        cases same
      · rw [same, List.takeWhile_append_dropWhile]
    · rw [if_neg digit] at passed
      cases passed

theorem skipWhole_accepts (passed : skipWhole input = .ok () rest) :
    ∃ cs, Binary64.IsWhole cs ∧ input = cs.map ofChar ++ rest := by
  rw [skipWhole, bind_ok (peek?_eq _)] at passed
  by_cases zero : input.head? = some 0x30
  · obtain ⟨w, rfl⟩ := List.head?_eq_some_iff.1 zero
    rw [if_pos zero, bind_ok (drop_cons _ _), bind_ok (peek?_eq _)] at passed
    by_cases digit : w.head?.any isDigit = true
    · rw [if_pos digit] at passed
      cases passed
    · rw [if_neg digit] at passed
      cases passed
      exact ⟨['0'], ⟨by simp, by simp, fun _ => rfl⟩, rfl⟩
  · rw [if_neg zero] at passed
    obtain ⟨cs, some, all, rfl⟩ := skipDigits_accepts passed
    refine ⟨cs, ⟨some, all, ?_⟩, rfl⟩
    intro first
    obtain ⟨ds, rfl⟩ := List.head?_eq_some_iff.1 first
    exact absurd rfl zero

theorem skipExponentIfAny_accepts (passed : skipExponentIfAny input = .ok () rest) :
    ∃ e : Option Exponent, (∀ e' ∈ e, e'.digits ≠ [] ∧ ∀ c ∈ e'.digits, c.isDigit = true) ∧
      input = ((e.map Exponent.chars).getD []).map ofChar ++ rest := by
  rw [skipExponentIfAny, bind_ok (peek?_eq _)] at passed
  cases input with
  | nil =>
    cases passed
    exact ⟨none, by simp, rfl⟩
  | cons b w =>
    rw [List.head?_cons, Option.any_some] at passed
    by_cases mark : isExponentMark b = true
    · rw [if_pos mark, bind_ok (drop_cons _ _), bind_ok (peek?_eq _)] at passed
      obtain ⟨capital, rfl⟩ : ∃ capital : Bool, b = ofChar (if capital then 'E' else 'e') := by
        simp only [isExponentMark, Bool.or_eq_true, beq_iff_eq] at mark
        rcases mark with rfl | rfl
        · exact ⟨false, rfl⟩
        · exact ⟨true, rfl⟩
      by_cases sign : w.head? = some 0x2b ∨ w.head? = some 0x2d
      · rw [if_pos sign] at passed
        obtain ⟨_, behind, dropped, passed⟩ := bind_eq_ok passed
        cases dropped
        obtain ⟨cs, some, all, same⟩ := skipDigits_accepts passed
        obtain ⟨negative, w', rfl⟩ : ∃ (negative : Bool) (w' : Bytes),
            w = ofChar (if negative then '-' else '+') :: w' := by
          rcases sign with plus | minus
          · obtain ⟨w', rfl⟩ := List.head?_eq_some_iff.1 plus
            exact ⟨false, w', rfl⟩
          · obtain ⟨w', rfl⟩ := List.head?_eq_some_iff.1 minus
            exact ⟨true, w', rfl⟩
        refine ⟨Option.some ⟨capital, Option.some negative, cs⟩, by simpa using ⟨some, all⟩, ?_⟩
        obtain rfl : w' = cs.map ofChar ++ rest := same
        simp [Exponent.chars]
      · rw [if_neg sign] at passed
        obtain ⟨cs, some, all, rfl⟩ := skipDigits_accepts passed
        refine ⟨Option.some ⟨capital, none, cs⟩, by simpa using ⟨some, all⟩, ?_⟩
        simp [Exponent.chars]
    · rw [if_neg mark] at passed
      cases passed
      exact ⟨none, by simp, rfl⟩

theorem skipNumberRest_accepts (negative : Bool) (passed : skipNumberRest input = .ok () rest) :
    ∃ n : Numeral, n.WellFormed ∧ n.negative = negative ∧ input = n.chars.map ofChar ++ rest := by
  obtain ⟨_, behind, first, later⟩ := bind_eq_ok passed
  obtain ⟨whole, isWhole, same⟩ := skipWhole_accepts first
  rw [bind_ok (peek?_eq _)] at later
  by_cases point : behind.head? = some 0x2e
  · obtain ⟨w, rfl⟩ := List.head?_eq_some_iff.1 point
    dsimp only at later
    rw [if_pos point, bind_ok (drop_cons _ _)] at later
    obtain ⟨_, behind, digits, last⟩ := bind_eq_ok later
    obtain ⟨fraction, some, all, rfl⟩ := skipDigits_accepts digits
    obtain ⟨exponent, wellFormed, rfl⟩ := skipExponentIfAny_accepts last
    refine ⟨⟨negative, whole, fraction, exponent⟩, ⟨isWhole, all, wellFormed⟩, rfl, ?_⟩
    simp only [same, Numeral.chars, if_neg some, List.map_append, List.map_cons, List.append_assoc,
      List.cons_append]
    rfl
  · dsimp only at later
    rw [if_neg point] at later
    obtain ⟨exponent, wellFormed, rfl⟩ := skipExponentIfAny_accepts later
    refine ⟨⟨negative, whole, [], exponent⟩, ⟨isWhole, List.forall_mem_nil _, wellFormed⟩, rfl, ?_⟩
    simp [same, Numeral.chars]

end Numerals

end Reader

theorem Exponent.ascii {e : Exponent} (digits : ∀ c ∈ e.digits, c.isDigit = true) :
    IsAscii e.chars := by
  have mark : IsAscii [if e.capital then 'E' else 'e'] := by cases e.capital <;> simp [IsAscii]
  refine mark.append (IsAscii.append ?_ (ascii_of_isDigit digits))
  rcases e.negative? with _ | _ | _ <;> simp [IsAscii]

theorem Numeral.WellFormed.ascii {n : Numeral} (wellFormed : n.WellFormed) :
    ∀ b ∈ n.bytes, b.toNat < 0x80 := by
  have chars : IsAscii n.chars := by
    refine ((ascii_of_isDigit wellFormed.whole.2.1).append ?_).append ?_
    · split
      · simp [IsAscii]
      · have point : IsAscii ['.'] := by simp [IsAscii]
        exact point.append (ascii_of_isDigit wellFormed.fraction)
    · cases given : n.exponent with
      | none => simp [IsAscii]
      | some e => exact Exponent.ascii (wellFormed.exponent e given).2
  rw [Numeral.bytes]
  refine List.forall_mem_append.2 ⟨?_, ofChar_ascii chars⟩
  split <;> simp

/-- The part stands in front of the rest, which is a text as well. -/
structure Ahead (part : Part) (input rest : Bytes) : Prop where
  text : IsText rest
  spelled : ∃ w, Spells part w ∧ input = w ++ rest

/-- Some value stands in front of the rest. -/
def ValueAhead (input rest : Bytes) : Prop := ∃ v, Ahead (.value v) input rest

namespace Reader

theorem word_accepts {letters input rest : Bytes} (passed : word letters input = .ok () rest) :
    input = letters ++ rest := by
  induction letters generalizing input with
  | nil =>
    cases passed
    rfl
  | cons c letters ih =>
    cases input with
    | nil => cases passed
    | cons b w =>
      rw [word, bind_ok (next?_cons _ _)] at passed
      dsimp only at passed
      by_cases same : b = c
      · rw [if_pos same] at passed
        rw [ih passed, same, List.cons_append]
      · rw [if_neg same] at passed
        cases passed

theorem ahead_word {v : Tree} {c : UInt8} {letters w rest : Bytes}
    (spelled : Spells (.value v) (c :: letters)) (ascii : ∀ b ∈ c :: letters, b.toNat < 0x80)
    (text : IsText (c :: w)) (passed : word letters w = .ok () rest) : ValueAhead (c :: w) rest := by
  obtain rfl := word_accepts passed
  exact ⟨v, text.behind_ascii (w := c :: letters) ascii, _, spelled, rfl⟩

theorem ahead_numeral {n : Numeral} (wellFormed : n.WellFormed) {rest : Bytes}
    (text : IsText (n.bytes ++ rest)) : ValueAhead (n.bytes ++ rest) rest :=
  ⟨_, text.behind_ascii wellFormed.ascii, _, .numeral wellFormed, rfl⟩

/-- A value without brackets. -/
theorem skipScalar_accepts {c : UInt8} {w rest : Bytes} (text : IsText (c :: w))
    (passed : skipScalar c (c :: w) = .ok () rest) : ValueAhead (c :: w) rest := by
  rw [skipScalar] at passed
  by_cases null : c = 0x6e
  · subst null
    exact ahead_word .null (by simp) text passed
  rw [if_neg null] at passed
  by_cases yes : c = 0x74
  · subst yes
    exact ahead_word (.boolean true) (by simp) text passed
  rw [if_neg yes] at passed
  by_cases no : c = 0x66
  · subst no
    exact ahead_word (.boolean false) (by simp) text passed
  rw [if_neg no] at passed
  by_cases minus : c = 0x2d
  · subst minus
    obtain ⟨n, wellFormed, negative, rfl⟩ :=
      skipNumberRest_accepts true (show skipNumberRest w = .ok () rest from passed)
    have bytes : 0x2d :: (n.chars.map ofChar ++ rest) = n.bytes ++ rest := by
      rw [Numeral.bytes, if_pos negative]
      rfl
    rw [bytes] at text ⊢
    exact ahead_numeral wellFormed text
  rw [if_neg minus] at passed
  by_cases digit : isDigit c = true
  · rw [if_pos digit] at passed
    obtain ⟨n, wellFormed, negative, same⟩ := skipNumberRest_accepts false passed
    have bytes : c :: w = n.bytes ++ rest := by
      rw [Numeral.bytes, if_neg (by simp [negative]), same]
      rfl
    rw [bytes] at text ⊢
    exact ahead_numeral wellFormed text
  rw [if_neg digit] at passed
  by_cases quote : c = 0x22
  · subst quote
    obtain ⟨us, inside, spelled, rfl, behind⟩ := skipTextRest_accepts (text.tail (by decide))
      (show skipTextRest w = .ok () rest from passed)
    exact ⟨_, behind, _, .text spelled, by simp⟩
  · rw [if_neg quote] at passed
    cases passed

end Reader

end DeviceRegistry.Json
