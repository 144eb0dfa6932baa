import DeviceRegistry.Proofs.Json.Soundness
import DeviceRegistry.Proofs.Message.Lenient

/-! A disposition is read from two numbers and from two names. No other spelling of the numbers will do,
but the names may be escaped in any way. -/
namespace DeviceRegistry
open Bytes Json

namespace Json

theorem le_ofDigitChars (cs : List Char) (n : Nat) : n ≤ Nat.ofDigitChars 10 cs n := by
  induction cs generalizing n with
  | nil => exact Nat.le_refl n
  | cons c cs ih =>
    have more := ih (10 * n + (c.toNat - '0'.toNat))
    rw [Nat.ofDigitChars_cons]
    omega

/-- A whole number below ten is written with its digit alone. -/
theorem digit_of_isWhole {cs : List Char} (whole : Binary64.IsWhole cs)
    (small : Nat.ofDigitChars 10 cs 0 < 10) :
    cs = [Char.ofNat (48 + Nat.ofDigitChars 10 cs 0)] := by
  obtain ⟨some, all, zero⟩ := whole
  obtain ⟨c, cs, rfl⟩ := List.exists_cons_of_ne_nil some
  have digit := all c List.mem_cons_self
  simp only [Char.isDigit, Bool.and_eq_true, decide_eq_true_eq, ge_iff_le, UInt32.le_iff_toNat_le]
    at digit
  have low : 48 ≤ c.toNat := digit.1
  have code : '0'.toNat = 48 := rfl
  have alone : cs = [] := by
    by_cases first : c = '0'
    · simpa [first] using zero
    · have other : c.toNat ≠ 48 := fun same => first (Char.toNat_inj.1 same)
      cases cs with
      | nil => rfl
      | cons d cs =>
        rw [Nat.ofDigitChars_cons, Nat.ofDigitChars_cons, code] at small
        have := le_ofDigitChars cs (10 * (10 * 0 + (c.toNat - 48)) + (d.toNat - 48))
        omega
  subst alone
  have same : 48 + Nat.ofDigitChars 10 [c] 0 = c.toNat := by
    rw [Nat.ofDigitChars_cons, Nat.ofDigitChars_nil, code]
    omega
  rw [same, Char.ofNat_toNat]

/-- Whole digits without a sign, a point and an exponent are the only numerals that are read as whole
numbers from zero on. -/
theorem Numeral.plain_of_unsigned {n : Numeral} {m : UInt64}
    (number : n.number? = some (.unsigned m)) :
    n = ⟨false, n.whole, [], none⟩ ∧ Nat.ofDigitChars 10 n.whole 0 = m.toNat := by
  have whole : n.wholeNumber? = some (.unsigned m) := by
    rw [Numeral.number?] at number
    cases given : n.wholeNumber? with
    | some x => simpa [given] using number
    | none => simp [given] at number
  obtain ⟨negative, digits, fraction, exponent⟩ := n
  rw [Numeral.wholeNumber?] at whole
  obtain ⟨plain, fits⟩ := Option.ite_none_right_eq_some.1 whole
  obtain ⟨rfl, rfl⟩ : fraction = [] ∧ exponent = none := plain
  cases negative with
  | true =>
    obtain ⟨-, other⟩ := Option.ite_none_right_eq_some.1 fits
    cases other
  | false =>
    obtain ⟨small, same⟩ := Option.ite_none_right_eq_some.1 fits
    cases same
    exact ⟨rfl, (UInt64.toNat_ofNat_of_lt' small).symm⟩

end Json

namespace Disposition

/-- The number that stands for the disposition. -/
def number : Disposition → UInt64
  | indoor => 0
  | outdoor => 1

/-- The two ways to write a disposition: its number, as one digit, and its name between quotes, escaped
in any way. -/
inductive Literal (d : Disposition) : Bytes → Prop where
  | number : Literal d (ofText (toString d.number))
  | name {us : List Nat} {w : Bytes} (inside : SpellsText us w)
      (name : string? us = some d.wireName) : Literal d (0x22 :: (w ++ [0x22]))

/-- The bytes are a literal of the disposition with nothing but blanks around it. -/
def Denoted (w : Bytes) (d : Disposition) : Prop :=
  ∃ b t b', IsBlanks b ∧ d.Literal t ∧ IsBlanks b' ∧ w = b ++ (t ++ b')

theorem find?_known (s : String) (d : Disposition) :
    (known.find? (·.1 == s)).map (·.2) = some d ↔ s = d.wireName := by
  constructor
  · intro found
    obtain ⟨⟨name, d'⟩, there, rfl⟩ := Option.map_eq_some_iff.1 found
    have named := List.find?_some there
    have listed := List.mem_of_find?_eq_some there
    simp only [beq_iff_eq] at named
    obtain ⟨d', -, same⟩ := List.mem_map.1 listed
    cases same
    exact named.symm
  · rintro rfl
    cases d <;> decide

theorem ofFound?_eq_some (x : Found) (d : Disposition) :
    ofFound? x = some d ↔ x = .number (.unsigned d.number) ∨ x = .text d.wireName := by
  cases x with
  | text s =>
    rw [ofFound?, find?_known]
    simp
  | number n =>
    cases n with
    | unsigned m =>
      by_cases zero : m = 0
      · subst zero
        cases d <;> simp [ofFound?, Disposition.number]
      · by_cases one : m = 1
        · subst one
          cases d <;> simp [ofFound?, Disposition.number]
        · cases d <;> simp [ofFound?, Disposition.number, zero, one]
    | _ => simp [ofFound?]
  | _ => simp [ofFound?]

/-- No numeral but the digit itself is read as the number of a disposition. -/
theorem bytes_of_number {n : Numeral} (wellFormed : n.WellFormed) {d : Disposition}
    (number : n.number? = some (.unsigned d.number)) : n.bytes = ofText (toString d.number) := by
  obtain ⟨plain, value⟩ := Numeral.plain_of_unsigned number
  have small : d.number.toNat < 10 := by cases d <;> decide
  have digit := digit_of_isWhole wellFormed.whole (value ▸ small)
  rw [value] at digit
  have same : n = Numeral.ofNatural d.number := by
    rw [plain, digit]
    cases d <;> rfl
  rw [same]
  exact (Numeral.ofNatural_bytes d.number).symm

theorem literal_iff (d : Disposition) (t : Bytes) :
    d.Literal t ↔ ∃ v, Spells (.value v) t ∧ v.found?.bind ofFound? = some d := by
  constructor
  · rintro (_ | ⟨inside, name⟩)
    · have spelled := Spells.numeral (Numeral.ofNatural_wellFormed d.number)
      rw [← Numeral.ofNatural_bytes] at spelled
      refine ⟨_, spelled, ?_⟩
      rw [Tree.found?, Numeral.number?, Numeral.ofNatural_wholeNumber?]
      exact (ofFound?_eq_some _ d).2 (.inl rfl)
    · refine ⟨_, .text inside, ?_⟩
      rw [Tree.found?, name]
      exact (ofFound?_eq_some _ d).2 (.inr rfl)
  · rintro ⟨v, spelled, means⟩
    obtain ⟨x, found, means⟩ := Option.bind_eq_some_iff.1 means
    rcases (ofFound?_eq_some x d).1 means with rfl | rfl
    · cases spelled with
      | @numeral n wellFormed =>
        obtain ⟨m, number, same⟩ := Option.map_eq_some_iff.1 found
        cases same
        rw [bytes_of_number wellFormed number]
        exact .number
      | @text us _ => cases chars : string? us <;> simp [Tree.found?, chars] at found
      | _ => cases found
    · cases spelled with
      | @text us w inside =>
        obtain ⟨name, chars, same⟩ := Option.map_eq_some_iff.1 found
        cases same
        exact .name inside chars
      | @numeral n _ => cases number : n.number? <;> simp [Tree.found?, number] at found
      | _ => cases found

/-- A text is read as a disposition if and only if it is one of its literals with nothing but blanks
around it. Every other text is refused. -/
theorem read_iff_denoted (s : String) :
    (∀ d, Json.read read (ofText s) = .ok d ↔ Denoted (ofText s) d) ∧
      ((∃ f, Json.read read (ofText s) = .error f) ↔ ∀ d, ¬ Denoted (ofText s) d) := by
  have reads (d : Disposition) : Json.read read (ofText s) = .ok d ↔ Denoted (ofText s) d := by
    rw [looksAt.interprets.read_eq_ok looksAt.accepts]
    constructor
    · rintro ⟨v, ⟨b, t, b', blanks, spelled, blanks', whole⟩, means⟩
      exact ⟨b, t, b', blanks, (literal_iff d t).2 ⟨v, spelled, means⟩, blanks', whole⟩
    · rintro ⟨b, t, b', blanks, literal, blanks', whole⟩
      obtain ⟨v, spelled, means⟩ := (literal_iff d t).1 literal
      exact ⟨v, ⟨b, t, b', blanks, spelled, blanks', whole⟩, means⟩
  refine ⟨reads, ?_⟩
  cases result : Json.read read (ofText s) with
  | ok d =>
    refine ⟨nofun, fun none => absurd ((reads d).1 result) (none d)⟩
  | error f =>
    refine ⟨fun _ d denoted => ?_, fun _ => ⟨f, rfl⟩⟩
    have := (reads d).2 denoted
    rw [result] at this
    cases this

end Disposition
end DeviceRegistry
