import DeviceRegistry.Json.Reader
import DeviceRegistry.Proofs.Json.Grammar
import DeviceRegistry.Proofs.Json.Text
import DeviceRegistry.Proofs.Stateful

/-! A numeral is read as what it spells, if what stands behind it does not go on with it. So a number
is read back as it was written. -/
namespace DeviceRegistry.Json
open Bytes

/-- No numeral goes on with these bytes. -/
def Closes (rest : Bytes) : Prop :=
  ∀ c ∈ rest.head?, isDigit c = false ∧ c ≠ 0x2e ∧ Reader.isExponentMark c = false

theorem closes_cons {c : UInt8} (rest : Bytes)
    (h : isDigit c = false ∧ c ≠ 0x2e ∧ Reader.isExponentMark c = false) : Closes (c :: rest) := by
  simpa [Closes] using h

theorem closes_nil : Closes [] := nofun

theorem head?_any {p : UInt8 → Bool} {rest : Bytes} (stop : ∀ c ∈ rest.head?, p c = false) :
    rest.head?.any p = false := by
  cases rest with
  | nil => rfl
  | cons b rest => simpa using stop b rfl

theorem isDigit_ofChar {c : Char} (h : c.isDigit = true) : isDigit (ofChar c) = true := by
  simp only [Char.isDigit, Bool.and_eq_true, decide_eq_true_eq, ge_iff_le, UInt32.le_iff_toNat_le]
    at h
  have high : c.val.toNat ≤ 57 := h.2
  have low : 48 ≤ c.val.toNat := h.1
  simp only [isDigit, ofChar, UInt8.le_iff_toNat_le, decide_eq_true_eq, UInt32.toNat_toUInt8]
  rw [Nat.mod_eq_of_lt (by omega)]
  exact ⟨low, high⟩

/-- No digit is a sign. -/
theorem ofChar_no_sign {c : Char} (h : c.isDigit = true) :
    ¬ (some (ofChar c) = some 0x2b ∨ some (ofChar c) = some 0x2d) := by
  have digit := isDigit_ofChar h
  rintro (sign | sign) <;> exact absurd (Option.some.inj sign ▸ digit) (by decide)

theorem toNat_ofChar {c : Char} (h : c.isDigit = true) : (ofChar c).toNat = c.toNat := by
  simp only [Char.isDigit, Bool.and_eq_true, decide_eq_true_eq, UInt32.le_iff_toNat_le] at h
  have high : c.val.toNat ≤ 57 := h.2
  simp only [ofChar, UInt32.toNat_toUInt8, Char.toNat]
  rw [Nat.mod_eq_of_lt (by omega)]

namespace Numeral

/-- The number that a numeral without point and exponent is, if it fits 64 bits. -/
def wholeNumber? (n : Numeral) : Option Number :=
  if n.fraction = [] ∧ n.exponent = none then
    Json.wholeNumber? n.negative (Nat.ofDigitChars 10 n.whole 0)
  else none

def decimal (n : Numeral) : Decimal :=
  ⟨n.negative, Nat.ofDigitChars 10 (n.whole ++ n.fraction) 0,
    (n.exponent.map Exponent.value).getD 0 - n.fraction.length⟩

end Numeral

namespace Reader

theorem peek?_eq (input : Bytes) : peek? input = .ok input.head? input := rfl

theorem next?_cons (c : UInt8) (rest : Bytes) : next? (c :: rest) = .ok (some c) rest := rfl

theorem drop_cons (c : UInt8) (rest : Bytes) : drop (c :: rest) = .ok () rest := rfl

theorem takeWhile_digits {cs : List Char} (all : ∀ c ∈ cs, c.isDigit = true) {rest : Bytes}
    (stop : ∀ c ∈ rest.head?, isDigit c = false) :
    (cs.map ofChar ++ rest).takeWhile isDigit = cs.map ofChar ∧
      (cs.map ofChar ++ rest).dropWhile isDigit = rest := by
  have digits : ∀ b ∈ cs.map ofChar, isDigit b = true := by
    intro b hb
    obtain ⟨c, hc, rfl⟩ := List.mem_map.1 hb
    exact isDigit_ofChar (all c hc)
  rw [List.takeWhile_append_of_pos digits, List.dropWhile_append_of_pos digits]
  cases rest with
  | nil => simp
  | cons b rest => simp [stop b rfl]

theorem foldl_digits {cs : List Char} (all : ∀ c ∈ cs, c.isDigit = true) (n : Nat) :
    (cs.map ofChar).foldl (fun n c => n * 10 + (c.toNat - 0x30)) n = Nat.ofDigitChars 10 cs n := by
  induction cs generalizing n with
  | nil => rfl
  | cons c cs ih =>
    rw [List.map_cons, List.foldl_cons, ih fun d hd => all d (List.mem_cons_of_mem _ hd),
      toNat_ofChar (all c List.mem_cons_self), Nat.ofDigitChars_cons, Nat.mul_comm]
    rfl

theorem digits_chars {cs : List Char} (all : ∀ c ∈ cs, c.isDigit = true) (n : Nat) {rest : Bytes}
    (stop : ∀ c ∈ rest.head?, isDigit c = false) :
    digits n (cs.map ofChar ++ rest) = .ok (Nat.ofDigitChars 10 cs n, cs.length) rest := by
  simp only [digits, takeWhile_digits all stop, foldl_digits all, List.length_map]

theorem wholePart_chars {cs : List Char} (whole : Binary64.IsWhole cs) {rest : Bytes}
    (stop : ∀ c ∈ rest.head?, isDigit c = false) :
    wholePart (cs.map ofChar ++ rest) = .ok (Nat.ofDigitChars 10 cs 0) rest := by
  obtain ⟨some, all, zero⟩ := whole
  obtain ⟨c, cs, rfl⟩ := List.exists_cons_of_ne_nil some
  have first : c.isDigit = true := all c List.mem_cons_self
  rw [wholePart, List.map_cons, List.cons_append, bind_ok (next?_cons _ _)]
  dsimp only
  by_cases hc : c = '0'
  · subst hc
    obtain rfl : cs = [] := by simpa using zero rfl
    rw [if_pos (by decide), bind_ok (peek?_eq _), List.map_nil, List.nil_append, head?_any stop]
    rfl
  · have other : ofChar c ≠ 0x30 := by
      intro same
      have := toNat_ofChar first
      rw [same] at this
      exact hc (Char.toNat_inj.1 this.symm)
    rw [if_neg other, if_pos (isDigit_ofChar first), toNat_ofChar first]
    rw [bind_ok (digits_chars (fun d hd => all d (List.mem_cons_of_mem _ hd)) _ stop),
      Nat.ofDigitChars_cons]
    simp [pure, EStateM.pure]

theorem fractionPart_chars {cs : List Char} (all : ∀ c ∈ cs, c.isDigit = true) (some : cs ≠ [])
    (n : Nat) {rest : Bytes} (stop : ∀ c ∈ rest.head?, isDigit c = false) :
    fractionPart n (cs.map ofChar ++ rest) = .ok (Nat.ofDigitChars 10 cs n, cs.length) rest := by
  rw [fractionPart, bind_ok (digits_chars all n stop)]
  simp [some, pure, EStateM.pure]

theorem exponentPart_chars {e : Exponent} (some : e.digits ≠ [])
    (all : ∀ c ∈ e.digits, c.isDigit = true) {rest : Bytes}
    (stop : ∀ c ∈ rest.head?, isDigit c = false) :
    exponentPart (e.chars.tail.map ofChar ++ rest) = .ok e.value rest := by
  obtain ⟨capital, negative?, digits⟩ := e
  obtain ⟨c, cs, rfl⟩ := List.exists_cons_of_ne_nil some
  have first : c.isDigit = true := all c List.mem_cons_self
  have later := digits_chars (fun d hd => all d (List.mem_cons_of_mem _ hd)) (c.toNat - 0x30) stop
  have value : Nat.ofDigitChars 10 (c :: cs) 0 = Nat.ofDigitChars 10 cs (c.toNat - 0x30) := by
    rw [Nat.ofDigitChars_cons, Nat.mul_zero, Nat.zero_add]
    rfl
  have digit := isDigit_ofChar first
  rw [← toNat_ofChar first] at later value
  cases negative? with
  | none =>
    have noSign := ofChar_no_sign first
    simp only [Exponent.chars, List.tail_cons, Option.map_none, Option.toList_none,
      List.nil_append, List.map_cons, List.cons_append, exponentPart]
    rw [bind_ok (peek?_eq _), List.head?_cons, if_neg noSign, bind_ok (next?_cons _ _)]
    dsimp only
    rw [if_pos digit, bind_ok later, if_neg (fun h => noSign (.inr h)), Exponent.value,
      if_neg nofun, value]
    rfl
  | some negative =>
    have sign : ofChar (if negative then '-' else '+') = if negative then 0x2d else 0x2b := by
      cases negative <;> rfl
    simp only [Exponent.chars, List.tail_cons, Option.map_some, Option.toList_some,
      List.nil_append, List.map_cons, List.cons_append, exponentPart, sign]
    rw [bind_ok (peek?_eq _), List.head?_cons, if_pos (by cases negative <;> simp),
      bind_ok (drop_cons _ _), bind_ok (next?_cons _ _)]
    dsimp only
    rw [if_pos digit, bind_ok later, Exponent.value, value]
    cases negative <;> rfl

theorem exponentIfAny_chars {exponent : Option Exponent}
    (wellFormed : ∀ e ∈ exponent, e.digits ≠ [] ∧ ∀ c ∈ e.digits, c.isDigit = true) {rest : Bytes}
    (closes : Closes rest) :
    exponentIfAny (((exponent.map Exponent.chars).getD []).map ofChar ++ rest) =
      .ok (exponent.map Exponent.value) rest := by
  cases exponent with
  | none =>
    rw [exponentIfAny, bind_ok (peek?_eq _), Option.map_none, Option.getD_none, List.map_nil,
      List.nil_append, head?_any fun c hc => (closes c hc).2.2]
    rfl
  | some e =>
    obtain ⟨some, all⟩ := wellFormed e rfl
    have tail := exponentPart_chars some all fun c hc => (closes c hc).1
    have mark : isExponentMark (ofChar (if e.capital then 'E' else 'e')) = true := by
      cases e.capital <;> rfl
    rw [exponentIfAny, bind_ok (peek?_eq _), Option.map_some, Option.getD_some, Exponent.chars,
      List.map_cons, List.cons_append, List.head?_cons, Option.any_some, if_pos mark,
      bind_ok (drop_cons _ _)]
    rw [Exponent.chars, List.tail_cons] at tail
    rw [bind_ok tail]
    rfl

/-- Behind the digits of a numeral stands its exponent, or no digit at all. -/
theorem exponentChars_stop (exponent : Option Exponent) {rest : Bytes} (closes : Closes rest) :
    ∀ c ∈ (((exponent.map Exponent.chars).getD []).map ofChar ++ rest).head?,
      isDigit c = false ∧ c ≠ 0x2e := by
  cases exponent with
  | none =>
    intro c hc
    exact ⟨(closes c hc).1, (closes c hc).2.1⟩
  | some e =>
    simp only [Option.map_some, Option.getD_some, Exponent.chars, List.map_cons,
      List.cons_append, List.head?_cons, Option.mem_def, Option.some.injEq, forall_eq']
    cases e.capital <;> decide

theorem point_stop (rest : Bytes) : ∀ c ∈ (ofChar '.' :: rest).head?, isDigit c = false := by
  simp only [List.head?_cons, Option.mem_def, Option.some.injEq, forall_eq']
  decide

/-- A numeral behind its sign is read as the number that it rounds to, or as the whole number that it
is if that fits. -/
theorem numberRest_chars {n : Numeral} (wellFormed : n.WellFormed) {rest : Bytes}
    (closes : Closes rest) :
    numberRest n.negative (n.chars.map ofChar ++ rest) =
      match n.wholeNumber? with
      | some number => .ok number rest
      | none => realOf n.decimal rest := by
  have stop := exponentChars_stop n.exponent closes
  have exponent := exponentIfAny_chars wellFormed.exponent closes
  simp only [Numeral.chars, List.map_append, List.append_assoc]
  by_cases whole : n.fraction = []
  · have noPoint := fun point => (stop 0x2e point).2 rfl
    rw [Option.mem_def] at noPoint
    rw [if_pos whole, List.map_nil, List.nil_append, numberRest,
      bind_ok (wholePart_chars wellFormed.whole fun c hc => (stop c hc).1), bind_ok (peek?_eq _),
      if_neg noPoint, bind_ok exponent]
    cases given : n.exponent with
    | some e => simp [Numeral.wholeNumber?, Numeral.decimal, whole, given]
    | none =>
      simp only [Option.map_none, Numeral.wholeNumber?, whole, given, and_self, if_true]
      cases wholeNumber? n.negative (Nat.ofDigitChars 10 n.whole 0) with
      | some number => rfl
      | none => simp [Numeral.decimal, whole, given]
  · rw [if_neg whole, List.map_cons, List.cons_append, numberRest,
      bind_ok (wholePart_chars wellFormed.whole (point_stop _)), bind_ok (peek?_eq _),
      if_pos (by rfl),
      bind_ok (drop_cons _ _),
      bind_ok (fractionPart_chars wellFormed.fraction whole _ fun c hc => (stop c hc).1)]
    dsimp only
    rw [bind_ok exponent, Numeral.wholeNumber?, if_neg (fun h => whole h.1), Numeral.decimal,
      Nat.ofDigitChars_append]

end Reader

/-- The digits come first. -/
theorem Numeral.WellFormed.digit {n : Numeral} (wellFormed : n.WellFormed) :
    ∃ c cs, n.chars = c :: cs ∧ c.isDigit = true := by
  obtain ⟨some, all, -⟩ := wellFormed.whole
  obtain ⟨c, cs, whole⟩ := List.exists_cons_of_ne_nil some
  refine ⟨c, _, by rw [Numeral.chars, whole, List.cons_append, List.cons_append], ?_⟩
  exact all c (by simp [whole])

/-- A numeral begins with a minus or a digit. -/
theorem Numeral.WellFormed.first {n : Numeral} (wellFormed : n.WellFormed) :
    ∃ c w, n.bytes = c :: w ∧ (c = 0x2d ∨ isDigit c = true) := by
  obtain ⟨c, cs, chars, digit⟩ := wellFormed.digit
  rw [Numeral.bytes, chars]
  cases n.negative with
  | true => exact ⟨_, _, rfl, .inl rfl⟩
  | false => exact ⟨_, _, rfl, .inr (isDigit_ofChar digit)⟩

namespace Numeral

/-- The numeral that is written for a whole number. -/
def ofNatural (n : UInt64) : Numeral := ⟨false, decimalDigits n.toNat, [], none⟩

theorem ofNatural_wellFormed (n : UInt64) : (ofNatural n).WellFormed :=
  ⟨Binary64.isWhole_decimalDigits _, nofun, nofun⟩

theorem ofNatural_wholeNumber? (n : UInt64) :
    (ofNatural n).wholeNumber? = some (.unsigned n) := by
  simp [ofNatural, Numeral.wholeNumber?, Json.wholeNumber?, Binary64.ofDigitChars_decimalDigits,
    n.toNat_lt_size]

theorem ofNatural_bytes (n : UInt64) : (Number.unsigned n).write = (ofNatural n).bytes := by
  rw [Number.write, show toString n = toString n.toNat from rfl, ofText_toString_nat]
  simp [bytes, chars, ofNatural]

/-- The numeral that is written for a double-precision number. -/
def ofWritten (negative : Bool) (w : Binary64.Written) : Numeral where
  negative := negative
  whole := w.whole
  fraction := w.fraction
  exponent := w.exponent.map fun k => ⟨false, some (decide (k < 0)), decimalDigits k.natAbs⟩

variable {w : Binary64.Written}

theorem ofWritten_wellFormed (wellFormed : w.WellFormed) (negative : Bool) :
    (ofWritten negative w).WellFormed := by
  refine ⟨wellFormed.whole, wellFormed.fraction, fun e there => ?_⟩
  obtain ⟨k, -, rfl⟩ := Option.map_eq_some_iff.1 there
  exact ⟨decimalDigits.ne_nil _, fun c => decimalDigits.isDigit⟩

theorem ofWritten_chars (negative : Bool) : (ofWritten negative w).chars = w.chars := by
  rw [chars, Binary64.Written.chars, ofWritten]
  cases w.exponent with
  | none => rfl
  | some k => by_cases sign : k < 0 <;> simp [Exponent.chars, Binary64.exponentChars, sign]

theorem ofWritten_wholeNumber? (wellFormed : w.WellFormed) (negative : Bool) :
    (ofWritten negative w).wholeNumber? = none := by
  refine if_neg fun h => ?_
  rcases wellFormed.real with fraction | exponent
  · exact fraction h.1
  · rw [show w.exponent = none by simpa [ofWritten] using h.2] at exponent
    contradiction

theorem ofWritten_decimal (negative : Bool) :
    (ofWritten negative w).decimal = w.numeral negative := by
  rw [decimal, Binary64.Written.numeral, ofWritten]
  cases w.exponent with
  | none => rfl
  | some k =>
    have value : (⟨false, some (decide (k < 0)), decimalDigits k.natAbs⟩ : Exponent).value = k := by
      rw [Exponent.value, Binary64.ofDigitChars_decimalDigits]
      by_cases sign : k < 0
      · rw [if_pos (by simp [sign])]
        omega
      · rw [if_neg (by simp [sign])]
        omega
    rw [Option.map_some, Option.map_some, value]

/-- A finite number is written as a numeral that does not stay whole and that it is nearest to. -/
theorem exists_real {x : Binary64} (finite : x.isFinite = true) :
    ∃ n : Numeral, n.WellFormed ∧ (Number.real x).write = n.bytes ∧ n.wholeNumber? = none ∧
      n.decimal.nearest = x := by
  obtain ⟨w, wellFormed, value, written⟩ := Binary64.text_written finite
  refine ⟨ofWritten x.isNegative w, ofWritten_wellFormed wellFormed _, ?_,
    ofWritten_wholeNumber? wellFormed _, ?_⟩
  · rw [Number.write, if_pos finite, bytes, ofWritten_chars, ofText_of_ascii, written, List.map_append]
    · rw [ofWritten]
      split <;> rfl
    · rw [written]
      refine IsAscii.append ?_ wellFormed.ascii
      split <;> simp [IsAscii]
  · rw [ofWritten_decimal, Decimal.nearest, value]
    exact Binary64.ofCode_code x

end Numeral

namespace Reader

/-- The sign of a numeral is taken first. -/
theorem number_bytes {n : Numeral} (wellFormed : n.WellFormed) (rest : Bytes) :
    number (n.bytes ++ rest) = numberRest n.negative (n.chars.map ofChar ++ rest) := by
  rw [Numeral.bytes, number, bind_ok (peek?_eq _)]
  cases n.negative with
  | true => exact bind_ok (drop_cons _ _)
  | false =>
    obtain ⟨c, cs, chars, digit⟩ := wellFormed.digit
    have noMinus : ¬ some (ofChar c) = some 0x2d := fun same => ofChar_no_sign digit (.inr same)
    rw [chars]
    exact congrFun (if_neg noMinus) _

/-- The first byte of a numeral is none that begins no numeral. -/
theorem numeral_first_ne {c d : UInt8} (first : c = 0x2d ∨ isDigit c = true)
    (other : ¬ (d = 0x2d ∨ isDigit d = true)) : c ≠ d := by
  rintro rfl
  exact other first

theorem numeral_first_token {c : UInt8} (first : c = 0x2d ∨ isDigit c = true) :
    isBlank c = false := by
  simp only [isBlank, Bool.or_eq_false_iff, beq_eq_false_iff_ne]
  refine ⟨⟨⟨?_, ?_⟩, ?_⟩, ?_⟩ <;> exact numeral_first_ne first (by decide)

theorem found_bytes {n : Numeral} (wellFormed : n.WellFormed) (rest : Bytes) :
    found (n.bytes ++ rest) =
      (do let m ← numberRest n.negative; return .number m : Reader Found)
        (n.chars.map ofChar ++ rest) := by
  rw [← bind_of_eq (number_bytes wellFormed rest)]
  obtain ⟨c, w, bytes, first⟩ := wellFormed.first
  rw [bytes, List.cons_append, found, bind_ok (peekToken?_cons (numeral_first_token first) _)]
  dsimp only
  rw [if_neg (numeral_first_ne first (by decide)), if_neg (numeral_first_ne first (by decide)),
    if_neg (numeral_first_ne first (by decide)), if_pos first]

theorem found_natural (n : UInt64) {rest : Bytes} (closes : Closes rest) :
    found ((Number.unsigned n).write ++ rest) = .ok (.number (.unsigned n)) rest := by
  have read := numberRest_chars (Numeral.ofNatural_wellFormed n) closes
  rw [Numeral.ofNatural_wholeNumber?] at read
  rw [Numeral.ofNatural_bytes, found_bytes (Numeral.ofNatural_wellFormed n)]
  exact bind_ok read

theorem natural_write (n : UInt64) {rest : Bytes} (closes : Closes rest) :
    natural ((Number.unsigned n).write ++ rest) = .ok n rest := by
  rw [natural, bind_ok (found_natural n closes)]
  rfl

theorem realOf_nearest {d : Decimal} {x : Binary64} (same : d.nearest = x) (finite : x.isFinite = true)
    (rest : Bytes) : realOf d rest = .ok (.real x) rest := by
  rw [realOf, same, if_pos finite]
  rfl

theorem found_real {x : Binary64} (finite : x.isFinite = true) {rest : Bytes}
    (closes : Closes rest) :
    found ((Number.real x).write ++ rest) = .ok (.number (.real x)) rest := by
  obtain ⟨n, wellFormed, written, real, same⟩ := Numeral.exists_real finite
  have read := numberRest_chars wellFormed closes
  rw [real] at read
  rw [written, found_bytes wellFormed]
  exact bind_ok (read.trans (realOf_nearest same finite rest))

theorem real_write {x : Binary64} (finite : x.isFinite = true) {rest : Bytes}
    (closes : Closes rest) : real ((Number.real x).write ++ rest) = .ok x rest := by
  rw [real, bind_ok (found_real finite closes)]
  rfl

end Reader
end DeviceRegistry.Json
