import DeviceRegistry.Json.Skip
import DeviceRegistry.Proofs.Json.Grammar
import DeviceRegistry.Proofs.Json.Text
import DeviceRegistry.Proofs.Stateful
import DeviceRegistry.Proofs.Text.Encoding

/-! A text is read as the characters that it spells, however they are escaped, and refused if a
surrogate stands alone. Passing over a text takes no notice of what it spells. -/
namespace DeviceRegistry.Json
open Bytes

theorem charUnits_small {c : Char} (small : c.toNat < 0x10000) : charUnits c = [c.toNat] :=
  if_pos small

theorem charUnits_pair {c : Char} (large : ¬ c.toNat < 0x10000) :
    ∃ n m, charUnits c = [n, m] ∧ isLeading n = true ∧ isTrailing m = true ∧
      pairedCode n m = c.toNat := by
  have bound : c.toNat < 0x110000 := by
    rcases c.valid with h | h
    · exact Nat.lt_trans h (by decide)
    · exact h.2
  refine ⟨0xd800 + (c.toNat - 0x10000) / 0x400, 0xdc00 + (c.toNat - 0x10000) % 0x400,
    by rw [charUnits, if_neg large], ?_, ?_, ?_⟩
  · rw [isLeading, decide_eq_true_iff]
    omega
  · rw [isTrailing, decide_eq_true_iff]
    omega
  · unfold pairedCode
    omega

/-- Leading surrogates are no trailing ones. -/
theorem not_trailing {n : Nat} (leading : isLeading n = true) : isTrailing n = false := by
  rw [isLeading, decide_eq_true_iff] at leading
  rw [isTrailing, decide_eq_false_iff_not]
  omega

theorem char_no_surrogate (c : Char) : isLeading c.toNat = false ∧ isTrailing c.toNat = false := by
  rw [isLeading, isTrailing, decide_eq_false_iff_not, decide_eq_false_iff_not]
  rcases c.valid with h | ⟨h, -⟩
  · have low : c.toNat < 0xd800 := h
    omega
  · have high : 0xdfff < c.toNat := h
    omega

theorem chars?_cons (n : Nat) (us : List Nat) :
    chars? (n :: us) =
      if isTrailing n then none
      else if isLeading n then
        match us with
        | [] => none
        | m :: us =>
          if isTrailing m then (chars? us).map (Char.ofNat (pairedCode n m) :: ·) else none
      else (chars? us).map (Char.ofNat n :: ·) :=
  chars?.eq_def (n :: us)

theorem chars?_trailing {n : Nat} (trailing : isTrailing n = true) (us : List Nat) :
    chars? (n :: us) = none := by
  rw [chars?_cons, if_pos trailing]

theorem chars?_small {n : Nat} (trailing : isTrailing n = false) (leading : isLeading n = false)
    (us : List Nat) : chars? (n :: us) = (chars? us).map (Char.ofNat n :: ·) := by
  rw [chars?_cons, if_neg (by simp [trailing]), if_neg (by simp [leading])]

theorem chars?_pair {n m : Nat} (leading : isLeading n = true) (trailing : isTrailing m = true)
    (us : List Nat) :
    chars? (n :: m :: us) = (chars? us).map (Char.ofNat (pairedCode n m) :: ·) := by
  rw [chars?_cons, if_neg (by simp [not_trailing leading]), if_pos leading]
  exact if_pos trailing

theorem chars?_alone {n : Nat} (leading : isLeading n = true) {us : List Nat}
    (alone : ∀ m ∈ us.head?, isTrailing m = false) : chars? (n :: us) = none := by
  rw [chars?_cons, if_neg (by simp [not_trailing leading]), if_pos leading]
  cases us with
  | nil => rfl
  | cons m us => exact if_neg (by simp [alone m rfl])

theorem chars?_charUnits (c : Char) (us : List Nat) :
    chars? (charUnits c ++ us) = (chars? us).map (c :: ·) := by
  by_cases small : c.toNat < 0x10000
  · obtain ⟨leading, trailing⟩ := char_no_surrogate c
    rw [charUnits_small small, List.singleton_append, chars?_small trailing leading,
      Char.ofNat_toNat]
  · obtain ⟨n, m, pair, leading, trailing, code⟩ := charUnits_pair small
    rw [pair, List.cons_append, List.singleton_append, chars?_pair leading trailing, code,
      Char.ofNat_toNat]

/-- No character begins with a trailing surrogate. -/
theorem charUnits_head (c : Char) (us : List Nat) :
    ∀ m ∈ (charUnits c ++ us).head?, isTrailing m = false := by
  by_cases small : c.toNat < 0x10000
  · rw [charUnits_small small, List.singleton_append, List.head?_cons]
    rintro _ ⟨⟩
    exact (char_no_surrogate c).2
  · obtain ⟨n, m, pair, leading, -⟩ := charUnits_pair small
    rw [pair, List.cons_append, List.head?_cons]
    rintro _ ⟨⟩
    exact not_trailing leading

theorem string?_units (s : String) : string? (units s) = some s := by
  have all : chars? (units s) = some s.toList := by
    rw [units]
    generalize s.toList = cs
    induction cs with
    | nil => rfl
    | cons c cs ih => rw [List.flatMap_cons, chars?_charUnits, ih, Option.map_some]
  rw [string?, all, Option.map_some, String.ofList_toList]

/-- The bytes of a character end no text and begin no escape, unless it does itself. -/
theorem utf8_plain {c : Char} (quote : c.toNat ≠ 0x22) (backslash : c.toNat ≠ 0x5c)
    (control : 0x20 ≤ c.toNat) :
    ∀ b ∈ String.utf8EncodeChar c, b ≠ 0x22 ∧ b ≠ 0x5c ∧ ¬ b < 0x20 := by
  intro b there
  rw [← UInt8.toNat_inj.ne, ← UInt8.toNat_inj.ne, UInt8.lt_iff_toNat_lt]
  simp only [UInt8.toNat_ofNat]
  by_cases small : c.toNat < 0x80
  · rw [utf8_small small, List.mem_singleton] at there
    rw [there, toNat_ofChar_small small]
    omega
  · have := utf8_large (Nat.le_of_not_lt small) b there
    omega

/-- The character needs no escape. -/
def isPlain (c : Char) : Bool := c.toNat != 0x22 && c.toNat != 0x5c && decide (0x20 ≤ c.toNat)

/-- A text of characters that need no escape spells itself. -/
theorem spellsText_plain {s : String} (plain : s.toList.all isPlain = true) :
    SpellsText (units s) (Bytes.ofText s) := by
  rw [units, ofText_eq_flatMap]
  generalize s.toList = cs at plain ⊢
  induction cs with
  | nil => exact .empty
  | cons c cs ih =>
    rw [List.all_cons, Bool.and_eq_true] at plain
    obtain ⟨first, later⟩ := plain
    simp only [isPlain, Bool.and_eq_true, bne_iff_ne, decide_eq_true_eq] at first
    exact .plain first.1.1 first.1.2 first.2 (ih later)

/-- A reader came to `a` in front of `rest`, or it failed. -/
def Decides {α : Type} (result : EStateM.Result Failure Bytes α) (o : Option α) (rest : Bytes) : Prop :=
  match o with
  | some a => result = .ok a rest
  | none => ∃ f rest', result = .error f rest'

namespace Decides

variable {α β : Type} {x : Reader α} {k : α → Reader β} {input rest rest' : Bytes} {o : Option α}

theorem bind {g : α → Option β} (h : Decides (x input) o rest)
    (later : ∀ a, o = some a → Decides (k a rest) (g a) rest') :
    Decides ((x >>= k) input) (o.bind g) rest' := by
  cases o with
  | none =>
    obtain ⟨f, left, failed⟩ := h
    exact ⟨f, left, bind_error failed⟩
  | some a =>
    have run : (x >>= k) input = k a rest := bind_ok h
    rw [run]
    exact later a rfl

theorem map {f : α → β} (h : Decides (x input) o rest) :
    Decides ((do let a ← x; return f a : Reader β) input) (o.map f) rest := by
  rw [Option.map_eq_bind]
  exact h.bind fun a _ => rfl

theorem inside {s : Segment} (h : Decides (x input) o rest) :
    Decides (Reader.inside s x input) o rest := by
  cases o with
  | none =>
    obtain ⟨f, left, failed⟩ := h
    exact ⟨f.inside s, left, by simp [Reader.inside, failed]⟩
  | some a =>
    show Reader.inside s x input = .ok a rest
    rw [Reader.inside, show x input = .ok a rest from h]

end Decides

/-- What comes of the bytes behind the escape of a leading surrogate. -/
def behindLeading (n : Nat) (rest acc : Bytes) : EStateM.Result Failure Bytes Bytes :=
  match rest with
  | [] => .error ⟨.unfinished .text, []⟩ []
  | 0x5c :: [] => .error ⟨.unfinished .text, []⟩ []
  | 0x5c :: 0x75 :: e :: f :: g :: h :: rest =>
    match hexUnit? e f g h with
    | none => .error ⟨.malformed .badEscape, []⟩ rest
    | some m =>
      if isTrailing m then textRest rest (encodedBackwards (pairedCode n m) ++ acc)
      else .error ⟨.malformed .loneSurrogate, []⟩ rest
  | 0x5c :: 0x75 :: _ => .error ⟨.unfinished .text, []⟩ []
  | 0x5c :: _ :: rest => .error ⟨.malformed .unfinishedSurrogate, []⟩ rest
  | _ :: rest => .error ⟨.malformed .unfinishedSurrogate, []⟩ rest

section Code

variable {a b c d : UInt8} {n : Nat}

theorem textRest_unit (digits : hexUnit? a b c d = some n) (rest acc : Bytes) :
    textRest (0x5c :: 0x75 :: a :: b :: c :: d :: rest) acc =
      if isTrailing n then .error ⟨.malformed .loneSurrogate, []⟩ rest
      else if isLeading n then behindLeading n rest acc
      else textRest rest (encodedBackwards n ++ acc) := by
  rw [textRest, digits]
  rfl

theorem textRest_trailing (digits : hexUnit? a b c d = some n) (trailing : isTrailing n = true)
    (rest acc : Bytes) :
    ∃ f rest', textRest (0x5c :: 0x75 :: a :: b :: c :: d :: rest) acc = .error f rest' :=
  ⟨_, _, (textRest_unit digits rest acc).trans (if_pos trailing)⟩

theorem textRest_code (digits : hexUnit? a b c d = some n) (trailing : isTrailing n = false)
    (leading : isLeading n = false) (rest acc : Bytes) :
    textRest (0x5c :: 0x75 :: a :: b :: c :: d :: rest) acc =
      textRest rest (encodedBackwards n ++ acc) := by
  rw [textRest_unit digits, if_neg (by simp [trailing]), if_neg (by simp [leading])]

theorem textRest_leading (digits : hexUnit? a b c d = some n) (leading : isLeading n = true)
    (rest acc : Bytes) :
    textRest (0x5c :: 0x75 :: a :: b :: c :: d :: rest) acc = behindLeading n rest acc := by
  rw [textRest_unit digits, if_neg (by simp [not_trailing leading]), if_pos leading]

end Code

/-- A leading surrogate goes with the escape of a trailing one and with nothing else. -/
theorem behindLeading_code {a b c d : UInt8} {m : Nat} (digits : hexUnit? a b c d = some m)
    (n : Nat) (rest acc : Bytes) :
    behindLeading n (0x5c :: 0x75 :: a :: b :: c :: d :: rest) acc =
      if isTrailing m then textRest rest (encodedBackwards (pairedCode n m) ++ acc)
      else .error ⟨.malformed .loneSurrogate, []⟩ rest := by
  simp only [behindLeading, digits]

theorem behindLeading_other (n : Nat) {x : UInt8} (other : x ≠ 0x5c) (rest acc : Bytes) :
    ∃ f rest', behindLeading n (x :: rest) acc = .error f rest' := by
  simp [behindLeading, other]

theorem behindLeading_letter (n : Nat) {x : UInt8} (other : x ≠ 0x75) (rest acc : Bytes) :
    ∃ f rest', behindLeading n (0x5c :: x :: rest) acc = .error f rest' := by
  simp [behindLeading, other]

theorem textRest_plains {b : Bytes} (plain : ∀ c ∈ b, c ≠ 0x22 ∧ c ≠ 0x5c ∧ ¬ c < 0x20)
    (rest acc : Bytes) : textRest (b ++ rest) acc = textRest rest (b.reverse ++ acc) := by
  induction b generalizing acc with
  | nil => rfl
  | cons c b ih =>
    obtain ⟨⟨quote, backslash, control⟩, later⟩ := List.forall_mem_cons.1 plain
    rw [List.cons_append, textRest_plain quote backslash control, ih later]
    simp

theorem encodedBackwards_eq (n : Nat) :
    encodedBackwards n = (String.utf8EncodeChar (Char.ofNat n)).reverse := by
  rw [encodedBackwards, ofText_eq_flatMap, String.toList_ofList]
  simp

/-- No letter of an escape is the one of code units, and each stands for an ASCII character. -/
theorem escapeByte?_some {c e : UInt8} (known : escapeByte? c = some e) :
    c ≠ 0x75 ∧ e.toNat < 0x80 := by
  have other : c ≠ 0x75 := by
    rintro rfl
    cases known
  refine ⟨other, ?_⟩
  rw [escapeByte?] at known
  split at known
  next same => rcases same with rfl | rfl | rfl <;> cases known <;> decide
  next =>
    repeat
      split at known
      · cases known
        decide
    cases known

/-- The bytes of characters, added backwards in front of `acc`. -/
def pushed (acc : Bytes) (cs : List Char) : Bytes :=
  (cs.flatMap String.utf8EncodeChar).reverse ++ acc

theorem pushed_cons (acc : Bytes) (c : Char) (cs : List Char) :
    pushed acc (c :: cs) = pushed ((String.utf8EncodeChar c).reverse ++ acc) cs := by
  simp [pushed]

theorem Decides.pushed {result : EStateM.Result Failure Bytes Bytes} {acc rest : Bytes} {c : Char}
    {us us' : List Nat} (h : Decides result
      ((chars? us).map (pushed ((String.utf8EncodeChar c).reverse ++ acc))) rest)
    (first : chars? us' = (chars? us).map (c :: ·)) :
    Decides result ((chars? us').map (Json.pushed acc)) rest := by
  rw [first, Option.map_map]
  have same : Json.pushed acc ∘ (c :: ·) =
      Json.pushed ((String.utf8EncodeChar c).reverse ++ acc) := funext (pushed_cons acc c)
  rwa [same]

/-- The inside of a text is read as the bytes of its characters, also behind the escape of a leading
surrogate, which its first code unit may or may not go with. -/
theorem textRest_spelled {us : List Nat} {w : Bytes} (spelled : SpellsText us w) :
    (∀ acc rest, Decides (textRest (w ++ 0x22 :: rest) acc) ((chars? us).map (pushed acc)) rest) ∧
      ∀ {a b c d : UInt8} {n : Nat}, hexUnit? a b c d = some n → isLeading n = true →
        ∀ acc rest, Decides (textRest (0x5c :: 0x75 :: a :: b :: c :: d :: (w ++ 0x22 :: rest)) acc)
          ((chars? (n :: us)).map (pushed acc)) rest := by
  induction spelled with
  | empty =>
    refine ⟨fun acc rest => textRest_quote rest acc, fun digits leading acc rest => ?_⟩
    rw [chars?_alone leading (by simp), textRest_leading digits leading]
    exact behindLeading_other _ (by decide) _ _
  | @plain c us w quote backslash control _ ih =>
    have plain := utf8_plain quote backslash control
    constructor
    · intro acc rest
      rw [List.append_assoc, textRest_plains plain]
      exact (ih.1 _ rest).pushed (chars?_charUnits c us)
    · intro a b c' d n digits leading acc rest
      rw [chars?_alone leading (charUnits_head c us), textRest_leading digits leading]
      obtain ⟨x, later, first⟩ := exists_utf8 c
      rw [first, List.cons_append, List.cons_append]
      exact behindLeading_other _ (plain x (by simp [first])).2.1 _ _
  | @letter c e us w escape _ ih =>
    obtain ⟨other, ascii⟩ := escapeByte?_some escape
    have trailing : isTrailing e.toNat = false := by
      rw [isTrailing, decide_eq_false_iff_not]
      omega
    have leading : isLeading e.toNat = false := by
      rw [isLeading, decide_eq_false_iff_not]
      omega
    constructor
    · intro acc rest
      have bytes : (String.utf8EncodeChar (Char.ofNat e.toNat)).reverse ++ acc = e :: acc := by
        rw [utf8_ascii ascii]
        rfl
      rw [List.cons_append, List.cons_append, textRest_escape other escape, ← bytes]
      exact (ih.1 _ rest).pushed (chars?_small trailing leading us)
    · intro a b c' d n digits leading acc rest
      rw [chars?_alone leading (by simpa using trailing), textRest_leading digits leading]
      exact behindLeading_letter _ other _ _
  | @code a b c d n us w digits _ ih =>
    constructor
    · intro acc rest
      cases trailing : isTrailing n with
      | true =>
        rw [chars?_trailing trailing]
        exact textRest_trailing digits trailing _ _
      | false =>
        cases leading : isLeading n with
        | true => exact ih.2 digits leading acc rest
        | false =>
          simp only [List.cons_append]
          rw [textRest_code digits trailing leading, encodedBackwards_eq]
          exact (ih.1 _ rest).pushed (chars?_small trailing leading us)
    · intro a' b' c' d' n' digits' leading acc rest
      simp only [List.cons_append]
      rw [textRest_leading digits' leading, behindLeading_code digits]
      cases trailing : isTrailing n with
      | true =>
        rw [if_pos rfl, encodedBackwards_eq]
        exact (ih.1 _ rest).pushed (chars?_pair leading trailing us)
      | false =>
        rw [chars?_alone leading (by simpa using trailing), if_neg (by simp)]
        exact ⟨_, _, rfl⟩

theorem Reader.quotedRest_spelled {us : List Nat} {w : Bytes} (spelled : SpellsText us w)
    (rest : Bytes) : Decides (quotedRest (w ++ 0x22 :: rest)) (string? us) rest := by
  have inside := (textRest_spelled spelled).1 [] rest
  rw [string?]
  cases chars : chars? us with
  | none =>
    rw [chars] at inside
    obtain ⟨f, left, failed⟩ := inside
    exact ⟨f, left, bind_error failed⟩
  | some cs =>
    rw [chars] at inside
    have bytes : (pushed [] cs).reverse = ofText (String.ofList cs) := by
      rw [ofText_eq_flatMap, String.toList_ofList, pushed, List.append_nil, List.reverse_reverse]
    apply (bind_ok inside).trans
    rw [bytes, text?_ofText]
    rfl

theorem skipTextRest_plains {b : Bytes} (plain : ∀ c ∈ b, c ≠ 0x22 ∧ c ≠ 0x5c ∧ ¬ c < 0x20)
    (rest : Bytes) : skipTextRest (b ++ rest) = skipTextRest rest := by
  induction b with
  | nil => rfl
  | cons c b ih =>
    obtain ⟨⟨quote, backslash, control⟩, later⟩ := List.forall_mem_cons.1 plain
    rw [List.cons_append, skipTextRest, if_neg quote, if_neg control, ih later]
    all_goals simp [backslash]

theorem skipTextRest_spelled {us : List Nat} {w : Bytes} (spelled : SpellsText us w)
    (rest : Bytes) : skipTextRest (w ++ 0x22 :: rest) = .ok () rest := by
  induction spelled with
  | empty => simp [skipTextRest]
  | plain quote backslash control _ ih =>
    rw [List.append_assoc, skipTextRest_plains (utf8_plain quote backslash control), ih]
  | letter escape _ ih => simp [skipTextRest, (escapeByte?_some escape).1, escape, ih]
  | code digits _ ih => simp [skipTextRest, digits, ih]

end DeviceRegistry.Json
