import DeviceRegistry.Proofs.Json.Escapes
import DeviceRegistry.Proofs.Json.Number

/-! A value that nobody asks for is passed over to its end, whatever it is and however deep it lies. -/
namespace DeviceRegistry.Json
open Bytes

theorem isBlanks_nil : IsBlanks [] := nofun

theorem Closes.blanks {b rest : Bytes} (closes : Closes rest) (blanks : IsBlanks b) :
    Closes (b ++ rest) := by
  cases b with
  | nil => exact closes
  | cons c b =>
    have blank : isBlank c = true := blanks c List.mem_cons_self
    simp only [isBlank, Bool.or_eq_true, beq_iff_eq] at blank
    rcases blank with ((rfl | rfl) | rfl) | rfl <;> exact closes_cons _ (by decide)

namespace Spells

/-- Behind an item no numeral goes on. -/
theorem items_closes {vs : List Tree} {w : Bytes} (spelled : Spells (.items false vs) w)
    (rest : Bytes) : Closes (w ++ rest) := by
  cases spelled with
  | listEnd blanks =>
    rw [List.append_assoc]
    exact (closes_cons _ (by decide)).blanks blanks
  | item blanks _ _ _ =>
    simp only [separator, Bool.false_eq_true, if_false, List.append_assoc, List.cons_append]
    exact (closes_cons _ (by decide)).blanks blanks

theorem members_closes {ms : List (List Nat × Tree)} {w : Bytes}
    (spelled : Spells (.members false ms) w) (rest : Bytes) : Closes (w ++ rest) := by
  cases spelled with
  | objectEnd blanks =>
    rw [List.append_assoc]
    exact (closes_cons _ (by decide)).blanks blanks
  | member blanks _ _ _ _ _ _ =>
    simp only [separator, Bool.false_eq_true, if_false, List.append_assoc, List.cons_append]
    exact (closes_cons _ (by decide)).blanks blanks

/-- A value begins with none of the bytes that stand around values. -/
theorem first {v : Tree} {t : Bytes} (spelled : Spells (.value v) t) :
    ∃ c w, t = c :: w ∧ isBlank c = false ∧ c ≠ 0x2c ∧ c ≠ 0x5d ∧ (v ≠ .null → c ≠ 0x6e) := by
  cases spelled with
  | null => exact ⟨_, _, rfl, rfl, by decide, by decide, fun other => absurd rfl other⟩
  | boolean b => cases b <;> exact ⟨_, _, rfl, rfl, by decide, by decide, fun _ => by decide⟩
  | numeral wellFormed =>
    obtain ⟨c, w, bytes, first⟩ := wellFormed.first
    exact ⟨c, w, bytes, Reader.numeral_first_token first,
      Reader.numeral_first_ne first (by decide), Reader.numeral_first_ne first (by decide),
      fun _ => Reader.numeral_first_ne first (by decide)⟩
  | text => exact ⟨_, _, rfl, rfl, by decide, by decide, fun _ => by decide⟩
  | list => exact ⟨_, _, rfl, rfl, by decide, by decide, fun _ => by decide⟩
  | object => exact ⟨_, _, rfl, rfl, by decide, by decide, fun _ => by decide⟩

end Spells

namespace Reader

theorem peekToken?_blanks {b : Bytes} (blanks : IsBlanks b) {c : UInt8} (token : isBlank c = false)
    (rest : Bytes) : peekToken? (b ++ c :: rest) = .ok (some c) (c :: rest) := by
  have dropped : (b ++ c :: rest).dropWhile isBlank = c :: rest := by
    rw [List.dropWhile_append_of_pos blanks, List.dropWhile_cons_of_neg (by simp [token])]
  simp [peekToken?, Reader.blanks, peek?, bind, EStateM.bind, dropped]

section Numerals

theorem skipDigits_chars {cs : List Char} (some : cs ≠ []) (all : ∀ c ∈ cs, c.isDigit = true)
    {rest : Bytes} (stop : ∀ c ∈ rest.head?, isDigit c = false) :
    skipDigits (cs.map ofChar ++ rest) = .ok () rest := by
  have digits := digits_chars all 0 stop
  obtain ⟨c, cs, rfl⟩ := List.exists_cons_of_ne_nil some
  have first : isDigit (ofChar c) = true := isDigit_ofChar (all c List.mem_cons_self)
  rw [skipDigits, bind_ok (peek?_eq _), List.map_cons, List.cons_append, List.head?_cons,
    Option.any_some, if_pos first]
  rw [List.map_cons, List.cons_append] at digits
  rw [bind_ok digits]
  rfl

theorem skipExponentIfAny_chars {exponent : Option Exponent}
    (wellFormed : ∀ e ∈ exponent, e.digits ≠ [] ∧ ∀ c ∈ e.digits, c.isDigit = true) {rest : Bytes}
    (closes : Closes rest) :
    skipExponentIfAny (((exponent.map Exponent.chars).getD []).map ofChar ++ rest) =
      .ok () rest := by
  cases exponent with
  | none =>
    rw [skipExponentIfAny, bind_ok (peek?_eq _), Option.map_none, Option.getD_none, List.map_nil,
      List.nil_append, head?_any fun c hc => (closes c hc).2.2]
    rfl
  | some e =>
    obtain ⟨capital, negative?, digits⟩ := e
    obtain ⟨some, all⟩ := wellFormed _ rfl
    have last := skipDigits_chars some all fun c hc => (closes c hc).1
    have mark : isExponentMark (ofChar (if capital then 'E' else 'e')) = true := by
      cases capital <;> rfl
    simp only [skipExponentIfAny, Option.map_some, Option.getD_some, Exponent.chars, List.map_cons,
      List.cons_append]
    rw [bind_ok (peek?_eq _), List.head?_cons, Option.any_some, if_pos mark,
      bind_ok (drop_cons _ _), bind_ok (peek?_eq _)]
    cases negative? with
    | none =>
      obtain ⟨c, cs, rfl⟩ := List.exists_cons_of_ne_nil some
      have noSign := ofChar_no_sign (all c List.mem_cons_self)
      exact (congrFun (if_neg noSign) _).trans last
    | some negative =>
      cases negative <;> exact last

/-- The digits in front of the point are passed over, whatever comes next. -/
theorem skipWhole_chars {cs : List Char} (whole : Binary64.IsWhole cs) {rest : Bytes}
    (stop : ∀ c ∈ rest.head?, isDigit c = false) :
    skipWhole (cs.map ofChar ++ rest) = .ok () rest := by
  have all := skipDigits_chars whole.1 whole.2.1 stop
  obtain ⟨c, cs, rfl⟩ := List.exists_cons_of_ne_nil whole.1
  have first : c.isDigit = true := whole.2.1 c List.mem_cons_self
  rw [List.map_cons, List.cons_append] at all ⊢
  rw [skipWhole, bind_ok (peek?_eq _), List.head?_cons]
  by_cases hc : c = '0'
  · subst hc
    obtain rfl : cs = [] := by simpa using whole.2.2 rfl
    rw [if_pos (by rfl), bind_ok (drop_cons _ _), bind_ok (peek?_eq _), List.map_nil,
      List.nil_append, head?_any stop]
    rfl
  · have other : ¬ some (ofChar c) = some 0x30 := by
      intro same
      have := toNat_ofChar first
      rw [Option.some.inj same] at this
      exact hc (Char.toNat_inj.1 this.symm)
    exact (congrFun (if_neg other) _).trans all

theorem skipNumberRest_chars {n : Numeral} (wellFormed : n.WellFormed) {rest : Bytes}
    (closes : Closes rest) : skipNumberRest (n.chars.map ofChar ++ rest) = .ok () rest := by
  have stop := exponentChars_stop n.exponent closes
  have exponent := skipExponentIfAny_chars wellFormed.exponent closes
  simp only [Numeral.chars, List.map_append, List.append_assoc]
  by_cases noPoint : n.fraction = []
  · rw [if_pos noPoint, List.map_nil, List.nil_append]
    rw [skipNumberRest, bind_ok (skipWhole_chars wellFormed.whole fun c hc => (stop c hc).1),
      bind_ok (peek?_eq _)]
    exact (congrFun (if_neg fun point => (stop 0x2e point).2 rfl) _).trans exponent
  · rw [if_neg noPoint, List.map_cons, List.cons_append]
    rw [skipNumberRest, bind_ok (skipWhole_chars wellFormed.whole (point_stop _)),
      bind_ok (peek?_eq _)]
    have digits := skipDigits_chars noPoint wellFormed.fraction fun c hc => (stop c hc).1
    exact (bind_ok digits).trans exponent

end Numerals

/-- A value without brackets is passed over in one step. -/
theorem skipScalar_numeral {n : Numeral} (wellFormed : n.WellFormed) {rest : Bytes}
    (closes : Closes rest) {c : UInt8} {w : Bytes} (bytes : n.bytes = c :: w) :
    skipScalar c (c :: (w ++ rest)) = .ok () rest := by
  have all := skipNumberRest_chars wellFormed closes
  rw [Numeral.bytes] at bytes
  cases sign : n.negative with
  | true =>
    rw [sign] at bytes
    cases bytes
    exact all
  | false =>
    obtain ⟨d, ds, chars, digit⟩ := wellFormed.digit
    rw [sign, chars] at bytes
    cases bytes
    have byte := isDigit_ofChar digit
    have noMinus : ofChar d ≠ 0x2d := fun same => absurd (same ▸ byte) (by decide)
    rw [chars] at all
    rw [skipScalar, if_neg (numeral_first_ne (.inr byte) (by decide)),
      if_neg (numeral_first_ne (.inr byte) (by decide)),
      if_neg (numeral_first_ne (.inr byte) (by decide)), if_neg noMinus, if_pos byte]
    exact all

theorem skipName_spelled {us : List Nat} {b n c : Bytes} (blanks : IsBlanks b)
    (name : SpellsText us n) (colon : IsBlanks c) (rest : Bytes) :
    skipName (b ++ 0x22 :: (n ++ 0x22 :: (c ++ 0x3a :: rest))) = .ok () rest := by
  rw [skipName, bind_ok (peekToken?_blanks blanks (by rfl) _)]
  dsimp only
  rw [if_pos rfl, bind_ok (drop_cons _ _), bind_ok (skipTextRest_spelled name _),
    bind_ok (peekToken?_blanks colon (by rfl) _)]
  rfl

/-- What may come next in front of the first item, or of a later one. -/
def stage (first : Bool) : SkipStage := if first then .opened else .after

section Steps

variable (fuel : Nat) (outer : List Bracket) {b : Bytes} (blanks : IsBlanks b)
include blanks

theorem skipRest_scalar {c : UInt8} (token : isBlank c = false) (list : c ≠ 0x5b)
    (object : c ≠ 0x7b) {input rest : Bytes} (passed : skipScalar c (c :: input) = .ok () rest) :
    skipRest (fuel + 1) .value outer (b ++ c :: input) = skipRest fuel .after outer rest := by
  rw [skipRest, bind_ok (peekToken?_blanks blanks token _)]
  dsimp only
  rw [if_neg list, if_neg object, bind_ok passed]

theorem skipRest_list (rest : Bytes) : skipRest (fuel + 1) .value outer (b ++ 0x5b :: rest) =
    skipRest fuel .opened (.list :: outer) rest := by
  rw [skipRest, bind_ok (peekToken?_blanks blanks (by rfl) _)]
  dsimp only
  rw [if_pos rfl, bind_ok (drop_cons _ _)]

theorem skipRest_object (rest : Bytes) : skipRest (fuel + 1) .value outer (b ++ 0x7b :: rest) =
    skipRest fuel .opened (.object :: outer) rest := by
  rw [skipRest, bind_ok (peekToken?_blanks blanks (by rfl) _)]
  dsimp only
  rw [if_neg (by decide), if_pos rfl, bind_ok (drop_cons _ _)]

theorem skipRest_closing (first : Bool) (bracket : Bracket) (rest : Bytes) :
    skipRest (fuel + 1) (stage first) (bracket :: outer) (b ++ bracket.closing :: rest) =
      skipRest fuel .after outer rest := by
  have token : isBlank bracket.closing = false := by cases bracket <;> rfl
  have noComma : bracket.closing ≠ 0x2c := by cases bracket <;> decide
  cases first with
  | true =>
    rw [stage, if_pos rfl, skipRest, bind_ok (peekToken?_blanks blanks token _)]
    dsimp only
    rw [if_pos rfl, bind_ok (drop_cons _ _)]
  | false =>
    rw [stage, if_neg (by decide), skipRest, bind_ok (peekToken?_blanks blanks token _)]
    dsimp only
    rw [if_neg noComma, if_pos rfl, bind_ok (drop_cons _ _)]

theorem skipRest_item (first : Bool) {b' : Bytes} (blanks' : IsBlanks b') {v : Tree} {t : Bytes}
    (value : Spells (.value v) t) (rest : Bytes) :
    ∃ b'', IsBlanks b'' ∧
      skipRest (fuel + 1) (stage first) (.list :: outer) (separator first b ++ (b' ++ (t ++ rest))) =
        skipRest fuel .value (.list :: outer) (b'' ++ (t ++ rest)) := by
  cases first with
  | true =>
    refine ⟨[], isBlanks_nil, ?_⟩
    obtain ⟨c, w, rfl, token, -, noEnd, -⟩ := value.first
    rw [stage, if_pos rfl, separator, if_pos rfl, List.nil_append, List.cons_append, skipRest,
      bind_ok (peekToken?_blanks blanks' token _)]
    dsimp only
    exact congrFun (if_neg noEnd) _
  | false =>
    refine ⟨b', blanks', ?_⟩
    rw [stage, if_neg (by decide), separator, if_neg (by decide), List.append_assoc,
      List.singleton_append, skipRest, bind_ok (peekToken?_blanks blanks (by rfl) _)]
    dsimp only
    rw [if_pos rfl, bind_ok (drop_cons _ _)]
    rfl

theorem skipRest_member (first : Bool) {us : List Nat} {b' n c : Bytes} (blanks' : IsBlanks b')
    (name : SpellsText us n) (colon : IsBlanks c) (rest : Bytes) :
    skipRest (fuel + 1) (stage first) (.object :: outer)
        (separator first b ++ (b' ++ 0x22 :: (n ++ 0x22 :: (c ++ 0x3a :: rest)))) =
      skipRest fuel .value (.object :: outer) rest := by
  cases first with
  | true =>
    have passed := skipName_spelled isBlanks_nil name colon rest
    rw [stage, if_pos rfl, separator, if_pos rfl, List.nil_append, skipRest,
      bind_ok (peekToken?_blanks blanks' (by rfl) _)]
    exact bind_ok passed
  | false =>
    have passed := skipName_spelled blanks' name colon rest
    rw [stage, if_neg (by decide), separator, if_neg (by decide), List.append_assoc,
      List.singleton_append, skipRest, bind_ok (peekToken?_blanks blanks (by rfl) _)]
    dsimp only
    rw [if_pos rfl, bind_ok (drop_cons _ _)]
    exact bind_ok passed

end Steps

/-- The rest of a list or an object is passed over in so many steps that twice its length is enough. -/
def PassedIn (bracket : Bracket) (first : Bool) (w : Bytes) : Prop :=
  ∃ n, n ≤ 2 * w.length ∧ ∀ fuel outer rest,
    skipRest (fuel + n) (stage first) (bracket :: outer) (w ++ rest) = skipRest fuel .after outer rest

/-- A part is passed over, and twice its length is enough. A value leaves one step over, which the item
in front of it took. -/
def Passed : Part → Bytes → Prop
  | .value _, t => ∃ n, n + 1 ≤ 2 * t.length ∧ ∀ fuel outer b rest, IsBlanks b → Closes rest →
      skipRest (fuel + n) .value outer (b ++ (t ++ rest)) = skipRest fuel .after outer rest
  | .items first _, w => PassedIn .list first w
  | .members first _, w => PassedIn .object first w

theorem passed_scalar {v : Tree} {c : UInt8} {w : Bytes} (token : isBlank c = false)
    (list : c ≠ 0x5b) (object : c ≠ 0x7b)
    (passed : ∀ rest, Closes rest → skipScalar c (c :: (w ++ rest)) = .ok () rest) :
    Passed (.value v) (c :: w) := by
  refine ⟨1, by simp only [List.length_cons]; omega, fun fuel outer b rest blanks closes => ?_⟩
  exact skipRest_scalar fuel outer blanks token list object (passed rest closes)

theorem passedIn_closing (bracket : Bracket) (first : Bool) {b : Bytes} (blanks : IsBlanks b) :
    PassedIn bracket first (b ++ [bracket.closing]) := by
  refine ⟨1, by simp only [List.length_append, List.length_singleton]; omega,
    fun fuel outer rest => ?_⟩
  rw [List.append_assoc, List.singleton_append]
  exact skipRest_closing fuel outer blanks first bracket rest

theorem passed_spelled {part : Part} {w : Bytes} (spelled : Spells part w) : Passed part w := by
  induction spelled with
  | null => exact passed_scalar (by rfl) (by decide) (by decide) fun _ _ => rfl
  | boolean b =>
    cases b <;> exact passed_scalar (by rfl) (by decide) (by decide) fun _ _ => rfl
  | @numeral n wellFormed =>
    obtain ⟨c, w, bytes, first⟩ := wellFormed.first
    rw [bytes]
    exact passed_scalar (numeral_first_token first) (numeral_first_ne first (by decide))
      (numeral_first_ne first (by decide)) fun _ closes =>
        skipScalar_numeral wellFormed closes bytes
  | text inside =>
    refine passed_scalar (by rfl) (by decide) (by decide) fun rest _ => ?_
    rw [List.append_assoc, List.singleton_append]
    exact skipTextRest_spelled inside rest
  | list _ ih =>
    obtain ⟨n, short, passed⟩ := ih
    refine ⟨n + 1, by simp only [List.length_cons]; omega, fun fuel outer b rest blanks _ => ?_⟩
    rw [List.cons_append, ← Nat.add_assoc, skipRest_list _ _ blanks]
    exact passed fuel outer rest
  | object _ ih =>
    obtain ⟨n, short, passed⟩ := ih
    refine ⟨n + 1, by simp only [List.length_cons]; omega, fun fuel outer b rest blanks _ => ?_⟩
    rw [List.cons_append, ← Nat.add_assoc, skipRest_object _ _ blanks]
    exact passed fuel outer rest
  | listEnd blanks => exact passedIn_closing .list _ blanks
  | objectEnd blanks => exact passedIn_closing .object _ blanks
  | @item first v vs b b' t w blanks blanks' value items ihValue ihItems =>
    obtain ⟨n, shortValue, passedValue⟩ := ihValue
    obtain ⟨m, shortItems, passedItems⟩ := ihItems
    refine ⟨m + n + 1, by simp only [List.length_append]; omega, fun fuel outer rest => ?_⟩
    obtain ⟨b'', blanks'', step⟩ :=
      skipRest_item (fuel + (m + n)) outer blanks first blanks' value (w ++ rest)
    simp only [List.append_assoc]
    rw [← Nat.add_assoc, step, ← Nat.add_assoc,
      passedValue _ _ _ _ blanks'' (items.items_closes rest)]
    exact passedItems fuel outer rest
  | @member first us v ms b b' n c c' t w blanks blanks' name colon colon' value members ihValue
      ihMembers =>
    obtain ⟨n, shortValue, passedValue⟩ := ihValue
    obtain ⟨m, shortMembers, passedMembers⟩ := ihMembers
    refine ⟨m + n + 1, by simp only [List.length_append, List.length_cons]; omega,
      fun fuel outer rest => ?_⟩
    simp only [List.append_assoc, List.cons_append]
    rw [← Nat.add_assoc, skipRest_member _ outer blanks first blanks' name colon, ← Nat.add_assoc,
      passedValue _ _ _ _ colon' (members.members_closes rest)]
    exact passedMembers fuel outer rest

/-- Every value that is spelled rightly is passed over to its end. -/
theorem skipValue_spelled {v : Tree} {b t rest : Bytes} (blanks : IsBlanks b)
    (value : Spells (.value v) t) (closes : Closes rest) :
    skipValue (b ++ (t ++ rest)) = .ok () rest := by
  obtain ⟨n, short, passed⟩ := passed_spelled value
  have enough : ∃ fuel, 2 * (b ++ (t ++ rest)).length + 2 = fuel + 1 + n := by
    refine ⟨2 * (b ++ (t ++ rest)).length + 1 - n, ?_⟩
    simp only [List.length_append]
    omega
  obtain ⟨fuel, enough⟩ := enough
  rw [skipValue, enough, passed _ _ _ _ blanks closes]
  rfl

end Reader
end DeviceRegistry.Json
