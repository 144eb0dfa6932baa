import DeviceRegistry.Json.Reader
import DeviceRegistry.Proofs.Json.Acceptance

/-! What is passed over in a text is a value, whatever is nested in it, and what is read in one step can
be passed over as well. -/
namespace DeviceRegistry.Json
open Bytes

theorem IsBlanks.append {b b' : Bytes} (h : IsBlanks b) (h' : IsBlanks b') : IsBlanks (b ++ b') :=
  List.forall_mem_append.2 ⟨h, h'⟩

namespace Ahead

variable {mid rest input b b' : Bytes} {v : Tree} {first : Bool}

theorem list {vs : List Tree} (h : Ahead (.items true vs) input rest) :
    Ahead (.value (.list vs)) (0x5b :: input) rest := by
  obtain ⟨text, w, spelled, rfl⟩ := h
  exact ⟨text, _, .list spelled, rfl⟩

theorem object {ms : List (List Nat × Tree)} (h : Ahead (.members true ms) input rest) :
    Ahead (.value (.object ms)) (0x7b :: input) rest := by
  obtain ⟨text, w, spelled, rfl⟩ := h
  exact ⟨text, _, .object spelled, rfl⟩

theorem item {vs : List Tree} (blanks : IsBlanks b) (blanks' : IsBlanks b')
    (value : Ahead (.value v) input mid) (later : Ahead (.items false vs) mid rest) :
    Ahead (.items first (v :: vs)) (separator first b ++ (b' ++ input)) rest := by
  obtain ⟨-, t, spelled, rfl⟩ := value
  obtain ⟨text, w, spelled', rfl⟩ := later
  exact ⟨text, _, .item blanks blanks' spelled spelled', by simp⟩

theorem member {us : List Nat} {ms : List (List Nat × Tree)} {n c c' : Bytes} (blanks : IsBlanks b)
    (blanks' : IsBlanks b') (name : SpellsText us n) (colon : IsBlanks c) (colon' : IsBlanks c')
    (value : Ahead (.value v) input mid) (later : Ahead (.members false ms) mid rest) :
    Ahead (.members first ((us, v) :: ms))
      (separator first b ++ (b' ++ 0x22 :: (n ++ 0x22 :: (c ++ 0x3a :: (c' ++ input))))) rest := by
  obtain ⟨-, t, spelled, rfl⟩ := value
  obtain ⟨text, w, spelled', rfl⟩ := later
  exact ⟨text, _, .member blanks blanks' name colon colon' spelled spelled', by simp⟩

end Ahead

namespace Reader

/-- A token that was asked for stands behind blanks. -/
theorem asked_accepts {α : Type} {input rest : Bytes} {what : Unfinished} {k : UInt8 → Reader α}
    {a : α} (text : IsText input)
    (read : (do
      match ← peekToken? with
      | none => unfinished what
      | some c => k c : Reader α) input = .ok a rest) :
    ∃ b c w, IsBlanks b ∧ input = b ++ c :: w ∧ IsText (c :: w) ∧ k c (c :: w) = .ok a rest := by
  obtain ⟨o, w, seen, later⟩ := bind_eq_ok read
  obtain ⟨rfl, -, b, blanks, same⟩ := exists_token seen
  cases w with
  | nil => cases later
  | cons c w => exact ⟨b, c, w, blanks, same, (same ▸ text).behind_ascii blanks.ascii, later⟩

/-- A member's name in its quotes and its colon. -/
theorem skipName_accepts {input rest : Bytes} (text : IsText input)
    (passed : skipName input = .ok () rest) :
    IsText rest ∧ ∃ b us n c, IsBlanks b ∧ SpellsText us n ∧ IsBlanks c ∧
      input = b ++ 0x22 :: (n ++ 0x22 :: (c ++ 0x3a :: rest)) := by
  obtain ⟨b, quote, w, blanks, rfl, text, later⟩ := asked_accepts text passed
  by_cases quoted : quote = 0x22
  · subst quoted
    rw [if_pos rfl, bind_ok (drop_cons _ _)] at later
    obtain ⟨_, w', name, behind⟩ := bind_eq_ok later
    obtain ⟨us, n, spelled, rfl, textBehind⟩ := skipTextRest_accepts (text.tail (by decide)) name
    obtain ⟨c, colon, w, blanks', rfl, text, last⟩ := asked_accepts textBehind behind
    by_cases same : colon = 0x3a
    · subst same
      cases last
      exact ⟨text.tail (by decide), b, us, n, c, blanks, spelled, blanks', rfl⟩
    · rw [if_neg same] at last
      cases last
  · rw [if_neg quoted] at later
    cases later

section Steps

variable {fuel : Nat} {outer : List Bracket} {input rest : Bytes} (text : IsText input)
include text

/-- In front of a value stand blanks; it has brackets, or it is passed over at once. -/
theorem skipRest_value_cases (passed : skipRest (fuel + 1) .value outer input = .ok () rest) :
    ∃ b w, IsBlanks b ∧ input = b ++ w ∧
      ((∃ w', w = 0x5b :: w' ∧ IsText w' ∧
          skipRest fuel .opened (.list :: outer) w' = .ok () rest) ∨
        (∃ w', w = 0x7b :: w' ∧ IsText w' ∧
          skipRest fuel .opened (.object :: outer) w' = .ok () rest) ∨
        ∃ mid, ValueAhead w mid ∧ skipRest fuel .after outer mid = .ok () rest) := by
  rw [skipRest] at passed
  obtain ⟨b, c, w, blanks, same, text, later⟩ := asked_accepts text passed
  refine ⟨b, c :: w, blanks, same, ?_⟩
  by_cases list : c = 0x5b
  · subst list
    rw [if_pos rfl, bind_ok (drop_cons _ _)] at later
    exact .inl ⟨w, rfl, text.tail (by decide), later⟩
  rw [if_neg list] at later
  by_cases object : c = 0x7b
  · subst object
    rw [if_pos rfl, bind_ok (drop_cons _ _)] at later
    exact .inr (.inl ⟨w, rfl, text.tail (by decide), later⟩)
  rw [if_neg object] at later
  obtain ⟨_, mid, scalar, later⟩ := bind_eq_ok later
  exact .inr (.inr ⟨mid, skipScalar_accepts text scalar, later⟩)

/-- Between brackets stands the closing one, or what separates the items, a name if the items have
names, and a value. -/
theorem skipRest_stage_cases {first : Bool} {bracket : Bracket}
    (passed : skipRest (fuel + 1) (stage first) (bracket :: outer) input = .ok () rest) :
    (∃ b w, IsBlanks b ∧ input = b ++ bracket.closing :: w ∧ IsText w ∧
        skipRest fuel .after outer w = .ok () rest) ∨
      ∃ b b' w, IsBlanks b ∧ IsBlanks b' ∧ input = separator first b ++ (b' ++ w) ∧ IsText w ∧
        (do
          if bracket = .object then skipName
          skipRest fuel .value (bracket :: outer) : Reader Unit) w = .ok () rest := by
  have ascii : bracket.closing.toNat < 0x80 := by cases bracket <;> decide
  cases first with
  | true =>
    rw [stage, if_pos rfl, skipRest] at passed
    obtain ⟨b, c, w, blanks, same, text, later⟩ := asked_accepts text passed
    by_cases closing : c = bracket.closing
    · subst closing
      rw [if_pos rfl, bind_ok (drop_cons _ _)] at later
      exact .inl ⟨b, w, blanks, same, text.tail ascii, later⟩
    · rw [if_neg closing] at later
      exact .inr ⟨[], b, _, isBlanks_nil, blanks, same, text, later⟩
  | false =>
    rw [stage, if_neg (by decide), skipRest] at passed
    obtain ⟨b, c, w, blanks, same, text, later⟩ := asked_accepts text passed
    by_cases comma : c = 0x2c
    · subst comma
      rw [if_pos rfl, bind_ok (drop_cons _ _)] at later
      refine .inr ⟨b, [], w, blanks, isBlanks_nil, ?_, text.tail (by decide), later⟩
      simp [same, separator]
    rw [if_neg comma] at later
    by_cases closing : c = bracket.closing
    · subst closing
      rw [if_pos rfl, bind_ok (drop_cons _ _)] at later
      exact .inl ⟨b, w, blanks, same, text.tail ascii, later⟩
    · rw [if_neg closing] at later
      cases later

end Steps

/-- The rest of a list or an object, with its closing bracket. -/
def Bracketed : Bracket → Bool → Bytes → Bytes → Prop
  | .list, first, input, rest => ∃ vs, Ahead (.items first vs) input rest
  | .object, first, input, rest => ∃ ms, Ahead (.members first ms) input rest

theorem bracketed_closing (bracket : Bracket) (first : Bool) {b w : Bytes} (blanks : IsBlanks b)
    (text : IsText w) : Bracketed bracket first (b ++ bracket.closing :: w) w := by
  cases bracket with
  | list => exact ⟨[], text, _, .listEnd blanks, by simp [Bracket.closing]⟩
  | object => exact ⟨[], text, _, .objectEnd blanks, by simp [Bracket.closing]⟩

/-- With so much fuel, what is passed over as a value is one. The brackets around it stay open. -/
def PassesValues (fuel : Nat) : Prop :=
  ∀ {outer input rest}, IsText input → skipRest fuel .value outer input = .ok () rest →
    ∃ b w mid left, left < fuel ∧ IsBlanks b ∧ input = b ++ w ∧ ValueAhead w mid ∧
      skipRest left .after outer mid = .ok () rest

/-- With so much fuel, what is passed over inside a bracket goes as far as the closing one. -/
def PassesBrackets (fuel : Nat) : Prop :=
  ∀ first bracket {outer input rest}, IsText input →
    skipRest fuel (stage first) (bracket :: outer) input = .ok () rest →
    ∃ mid left, left < fuel ∧ Bracketed bracket first input mid ∧
      skipRest left .after outer mid = .ok () rest

theorem passesValues_succ {fuel : Nat} (inside : PassesBrackets fuel) :
    PassesValues (fuel + 1) := by
  intro outer input rest text passed
  obtain ⟨b, w, blanks, same, ⟨w', rfl, text, later⟩ | ⟨w', rfl, text, later⟩ |
    ⟨mid, ahead, later⟩⟩ := skipRest_value_cases text passed
  · obtain ⟨mid, left, less, ⟨vs, items⟩, last⟩ := inside true .list text later
    exact ⟨b, _, mid, left, Nat.lt_succ_of_lt less, blanks, same, ⟨_, items.list⟩, last⟩
  · obtain ⟨mid, left, less, ⟨ms, members⟩, last⟩ := inside true .object text later
    exact ⟨b, _, mid, left, Nat.lt_succ_of_lt less, blanks, same, ⟨_, members.object⟩, last⟩
  · exact ⟨b, w, mid, fuel, Nat.lt_succ_self _, blanks, same, ahead, later⟩

theorem passesBrackets_succ {fuel : Nat} (value : PassesValues fuel)
    (smaller : ∀ left < fuel, PassesBrackets left) : PassesBrackets (fuel + 1) := by
  intro first bracket outer input rest text passed
  obtain ⟨b, w, blanks, rfl, text, later⟩ | ⟨b, b', w, blanks, blanks', same, text, later⟩ :=
    skipRest_stage_cases text passed
  · exact ⟨w, fuel, Nat.lt_succ_self _, bracketed_closing bracket first blanks text, later⟩
  · cases bracket with
    | list =>
      obtain ⟨b'', w, mid, left, less, blanks'', rfl, ⟨v, ahead⟩, after⟩ := value text later
      obtain ⟨mid', left', less', ⟨vs, items⟩, last⟩ := smaller left less false .list ahead.text after
      refine ⟨mid', left', by omega, ⟨v :: vs, ?_⟩, last⟩
      rw [same, ← List.append_assoc b']
      exact .item blanks (blanks'.append blanks'') ahead items
    | object =>
      obtain ⟨_, w', name, behind⟩ := bind_eq_ok later
      obtain ⟨textBehind, b'', us, n, c, blanks'', spelled, colon, rfl⟩ :=
        skipName_accepts text name
      obtain ⟨c', w, mid, left, less, colon', rfl, ⟨v, ahead⟩, after⟩ := value textBehind behind
      obtain ⟨mid', left', less', ⟨ms, members⟩, last⟩ :=
        smaller left less false .object ahead.text after
      refine ⟨mid', left', by omega, ⟨(us, v) :: ms, ?_⟩, last⟩
      rw [same, ← List.append_assoc b']
      exact .member blanks (blanks'.append blanks'') spelled colon colon' ahead members

theorem skipRest_accepts (fuel : Nat) : PassesValues fuel ∧ PassesBrackets fuel := by
  -- A value inside a bracket leaves less fuel for what stands behind it, but no fixed amount.
  induction fuel using Nat.strongRecOn with
  | ind fuel ih =>
    cases fuel with
    | zero =>
      refine ⟨fun _ passed => ?_, fun _ _ _ _ _ _ passed => ?_⟩
      · rw [skipRest] at passed
        cases passed
      · rw [skipRest] at passed
        cases passed
    | succ fuel =>
      obtain ⟨value, inside⟩ := ih fuel (Nat.lt_succ_self _)
      exact ⟨passesValues_succ inside,
        passesBrackets_succ value fun left less => (ih left (Nat.lt_succ_of_lt less)).2⟩

end Reader

/-- In front of what a reader leaves of a text, it took a value. -/
def Accepts {α : Type} (r : Reader α) : Prop :=
  ∀ ⦃input a rest⦄, IsText input → r input = .ok a rest →
    ∃ b w, IsBlanks b ∧ input = b ++ w ∧ ValueAhead w rest

theorem accepts_skipValue : Accepts Reader.skipValue := by
  intro input _ rest text passed
  obtain ⟨b, w, mid, left, -, blanks, same, ahead, last⟩ :=
    (Reader.skipRest_accepts _).1 text passed
  cases left with
  | zero =>
    rw [Reader.skipRest] at last
    cases last
  | succ left =>
    cases last
    exact ⟨b, w, blanks, same, ahead⟩

namespace Reader

section Numerals

variable {input rest : Bytes}

theorem skipDigits_of_digit {b : UInt8} (digit : isDigit b = true) (w : Bytes) :
    skipDigits (b :: w) = .ok () (w.dropWhile isDigit) := by
  rw [skipDigits, bind_ok (peek?_eq _), List.head?_cons, Option.any_some, if_pos digit,
    ← List.dropWhile_cons_of_pos digit]
  rfl

theorem skipWhole_of_wholePart {n : Nat} (read : wholePart input = .ok n rest) :
    skipWhole input = .ok () rest := by
  cases input with
  | nil => cases read
  | cons c w =>
    rw [wholePart, bind_ok (next?_cons _ _)] at read
    rw [skipWhole, bind_ok (peek?_eq _), List.head?_cons]
    dsimp only at read ⊢
    by_cases zero : c = 0x30
    · rw [if_pos zero, bind_ok (peek?_eq _)] at read
      rw [if_pos (congrArg some zero), bind_ok (drop_cons _ _), bind_ok (peek?_eq _)]
      by_cases digit : w.head?.any isDigit = true
      · rw [if_pos digit] at read
        cases read
      · rw [if_neg digit] at read ⊢
        cases read
        rfl
    · rw [if_neg zero] at read
      rw [if_neg fun same => zero (Option.some.inj same)]
      by_cases digit : isDigit c = true
      · rw [if_pos digit] at read
        cases read
        exact skipDigits_of_digit digit w
      · rw [if_neg digit] at read
        cases read

theorem skipDigits_of_fractionPart {n : Nat} {p : Nat × Nat}
    (read : fractionPart n input = .ok p rest) : skipDigits input = .ok () rest := by
  cases input with
  | nil => cases read
  | cons b w =>
    by_cases digit : isDigit b = true
    · rw [skipDigits_of_digit digit, ← List.dropWhile_cons_of_pos digit]
      obtain ⟨⟨m, places⟩, behind, all, later⟩ := bind_eq_ok read
      cases all
      dsimp only at later
      rw [List.takeWhile_cons_of_pos digit, List.length_cons, if_neg (Nat.succ_ne_zero _)] at later
      cases later
      rfl
    · have none : (b :: w).takeWhile isDigit = [] := by simp [digit]
      obtain ⟨⟨m, places⟩, behind, all, later⟩ := bind_eq_ok read
      cases all
      dsimp only at later
      rw [none, List.length_nil, if_pos rfl, bind_ok (peek?_eq _)] at later
      cases stop : ((b :: w).dropWhile isDigit).head? <;> rw [stop] at later <;> cases later

theorem skipDigits_of_exponent {f : Nat → Int} {e : Int}
    (read : (do
      match ← next? with
      | none => unfinished .value
      | some c =>
        if isDigit c then
          let (n, _) ← digits (c.toNat - 0x30)
          return f n
        else malformed .badNumber : Reader Int) input = .ok e rest) :
    skipDigits input = .ok () rest := by
  cases input with
  | nil => cases read
  | cons c w =>
    rw [bind_ok (next?_cons _ _)] at read
    dsimp only at read
    by_cases digit : isDigit c = true
    · rw [if_pos digit] at read
      cases read
      exact skipDigits_of_digit digit w
    · rw [if_neg digit] at read
      cases read

theorem skipExponentIfAny_of_read {e : Option Int} (read : exponentIfAny input = .ok e rest) :
    skipExponentIfAny input = .ok () rest := by
  rw [exponentIfAny, bind_ok (peek?_eq _)] at read
  rw [skipExponentIfAny, bind_ok (peek?_eq _)]
  by_cases mark : input.head?.any isExponentMark = true
  · rw [if_pos mark] at read ⊢
    obtain ⟨_, w, dropped, read⟩ := bind_eq_ok read
    rw [bind_ok dropped, bind_ok (peek?_eq _)]
    obtain ⟨n, behind, part, last⟩ := bind_eq_ok read
    cases last
    rw [exponentPart, bind_ok (peek?_eq _)] at part
    by_cases sign : w.head? = some 0x2b ∨ w.head? = some 0x2d
    · rw [if_pos sign] at part ⊢
      obtain ⟨_, w', dropped, digits⟩ := bind_eq_ok part
      rw [bind_ok dropped]
      exact skipDigits_of_exponent (f := fun n => if w.head? = some 0x2d then -n else n) digits
    · rw [if_neg sign] at part ⊢
      exact skipDigits_of_exponent (f := fun n => if w.head? = some 0x2d then -n else n) part
  · rw [if_neg mark] at read ⊢
    cases read
    rfl

theorem realOf_rest {x : Decimal} {n : Number} (read : realOf x input = .ok n rest) : input = rest := by
  rw [realOf] at read
  split at read
  · cases read
    rfl
  · cases read

/-- What is read as a number can be passed over as one. -/
theorem skipNumberRest_of_numberRest {negative : Bool} {n : Number}
    (read : numberRest negative input = .ok n rest) : skipNumberRest input = .ok () rest := by
  obtain ⟨whole, behind, part, later⟩ := bind_eq_ok read
  rw [skipNumberRest, bind_ok (skipWhole_of_wholePart part)]
  rw [bind_ok (peek?_eq _)] at later ⊢
  dsimp only at later ⊢
  by_cases point : behind.head? = some 0x2e
  · rw [if_pos point] at later ⊢
    obtain ⟨_, w, dropped, later⟩ := bind_eq_ok later
    obtain ⟨⟨m, places⟩, w', fraction, later⟩ := bind_eq_ok later
    obtain ⟨e, w'', exponent, last⟩ := bind_eq_ok later
    obtain rfl := realOf_rest last
    rw [bind_ok dropped, bind_ok (skipDigits_of_fractionPart fraction)]
    exact skipExponentIfAny_of_read exponent
  · rw [if_neg point] at later ⊢
    obtain ⟨e, w, exponent, last⟩ := bind_eq_ok later
    have same : w = rest := by
      cases e with
      | some => exact realOf_rest last
      | none =>
        dsimp only at last
        cases fits : wholeNumber? negative whole with
        | some number =>
          rw [fits] at last
          cases last
          rfl
        | none =>
          rw [fits] at last
          exact realOf_rest last
    exact same ▸ skipExponentIfAny_of_read exponent

end Numerals

theorem skipNumberRest_of_number {c : UInt8} {w rest : Bytes} {n : Number}
    (read : number (c :: w) = .ok n rest) :
    skipNumberRest (if c = 0x2d then w else c :: w) = .ok () rest := by
  rw [number, bind_ok (peek?_eq _), List.head?_cons] at read
  by_cases minus : c = 0x2d
  · rw [if_pos (congrArg some minus), bind_ok (drop_cons _ _)] at read
    rw [if_pos minus]
    exact skipNumberRest_of_numberRest read
  · rw [if_neg fun same => minus (Option.some.inj same)] at read
    rw [if_neg minus]
    exact skipNumberRest_of_numberRest read

theorem return_ok {α β : Type} {r : Reader α} {f : α → β} {input rest : Bytes} {b : β}
    (read : (do let a ← r; return f a : Reader β) input = .ok b rest) :
    ∃ a, r input = .ok a rest ∧ b = f a := by
  obtain ⟨a, _, first, last⟩ := bind_eq_ok read
  cases last
  exact ⟨a, first, rfl⟩

theorem skipTextRest_of_quotedRest {input rest : Bytes} {s : String}
    (read : quotedRest input = .ok s rest) : skipTextRest input = .ok () rest := by
  obtain ⟨bytes, behind, inside, last⟩ := bind_eq_ok read
  have passed := skipTextRest_of_textRest _ _ inside
  cases chars : Bytes.text? bytes.reverse with
  | none =>
    rw [chars] at last
    cases last
  | some =>
    rw [chars] at last
    cases last
    exact passed

/-- A value without brackets that is found can be passed over. -/
theorem skipScalar_of_found {c : UInt8} {w rest : Bytes} {x : Found} (token : isBlank c = false)
    (list : c ≠ 0x5b) (object : c ≠ 0x7b) (read : found (c :: w) = .ok x rest) :
    x ≠ .list ∧ x ≠ .object ∧ skipScalar c (c :: w) = .ok () rest := by
  rw [found, bind_ok (peekToken?_cons token _)] at read
  rw [skipScalar]
  dsimp only at read
  by_cases null : c = 0x6e
  · rw [if_pos null, bind_ok (drop_cons _ _)] at read ⊢
    obtain ⟨_, passed, rfl⟩ := return_ok read
    exact ⟨by simp, by simp, passed⟩
  rw [if_neg null] at read ⊢
  by_cases yes : c = 0x74
  · rw [if_pos yes, bind_ok (drop_cons _ _)] at read ⊢
    obtain ⟨_, passed, rfl⟩ := return_ok read
    exact ⟨by simp, by simp, passed⟩
  rw [if_neg yes] at read ⊢
  by_cases no : c = 0x66
  · rw [if_pos no, bind_ok (drop_cons _ _)] at read ⊢
    obtain ⟨_, passed, rfl⟩ := return_ok read
    exact ⟨by simp, by simp, passed⟩
  rw [if_neg no] at read ⊢
  by_cases minus : c = 0x2d ∨ isDigit c = true
  · rw [if_pos minus] at read
    obtain ⟨n, number, rfl⟩ := return_ok read
    refine ⟨by simp, by simp, ?_⟩
    have passed := skipNumberRest_of_number number
    by_cases minus : c = 0x2d
    · rw [if_pos minus] at passed ⊢
      exact passed
    · rw [if_neg minus] at passed ⊢
      rwa [if_pos (by simp_all)]
  obtain ⟨noMinus, noDigit⟩ := not_or.1 minus
  rw [if_neg minus] at read
  rw [if_neg noMinus, if_neg noDigit]
  by_cases quote : c = 0x22
  · rw [if_pos quote, bind_ok (drop_cons _ _)] at read
    obtain ⟨s, quoted, rfl⟩ := return_ok read
    rw [if_pos quote]
    exact ⟨by simp, by simp, skipTextRest_of_quotedRest quoted⟩
  · rw [if_neg quote, if_neg list, if_neg object] at read
    cases read

end Reader

end DeviceRegistry.Json
