import DeviceRegistry.Json.Lexer
import DeviceRegistry.Proofs.Number.Shortest

/-! JSON texts by what they tell and by how it is spelled. A tree leaves open what the grammar leaves
open: the blanks between tokens, and how the characters of a text are escaped. Its texts are sequences
of UTF-16 code units, since escapes may name surrogates that stand alone. -/
namespace DeviceRegistry.Json
open Bytes

/-- The UTF-16 code units of a character. -/
def charUnits (c : Char) : List Nat :=
  if c.toNat < 0x10000 then [c.toNat]
  else [0xd800 + (c.toNat - 0x10000) / 0x400, 0xdc00 + (c.toNat - 0x10000) % 0x400]

def units (s : String) : List Nat := s.toList.flatMap charUnits

/-- The characters that have these code units; none if a surrogate stands alone. -/
def chars? : List Nat → Option (List Char)
  | [] => some []
  | n :: rest =>
    if isTrailing n then none
    else if isLeading n then
      match rest with
      | [] => none
      | m :: rest =>
        if isTrailing m then (chars? rest).map (Char.ofNat (pairedCode n m) :: ·) else none
    else (chars? rest).map (Char.ofNat n :: ·)

def string? (us : List Nat) : Option String := (chars? us).map String.ofList

/-- The exponent of a numeral: its mark, its sign if it has one, and its digits. -/
structure Exponent where
  capital : Bool
  negative? : Option Bool
  digits : List Char

namespace Exponent

def chars (e : Exponent) : List Char :=
  (if e.capital then 'E' else 'e') ::
    ((e.negative?.map fun negative => if negative then '-' else '+').toList ++ e.digits)

def value (e : Exponent) : Int :=
  if e.negative? = some true then -(Nat.ofDigitChars 10 e.digits 0 : Int)
  else Nat.ofDigitChars 10 e.digits 0

end Exponent

/-- A numeral by its parts. No fraction digits stand for no point. -/
structure Numeral where
  negative : Bool
  whole : List Char
  fraction : List Char
  exponent : Option Exponent

namespace Numeral

def chars (n : Numeral) : List Char :=
  n.whole ++ (if n.fraction = [] then [] else '.' :: n.fraction) ++
    (n.exponent.map Exponent.chars).getD []

def bytes (n : Numeral) : Bytes := (if n.negative then [0x2d] else []) ++ n.chars.map ofChar

structure WellFormed (n : Numeral) : Prop where
  whole : Binary64.IsWhole n.whole
  fraction : ∀ c ∈ n.fraction, c.isDigit = true
  exponent : ∀ e ∈ n.exponent, e.digits ≠ [] ∧ ∀ c ∈ e.digits, c.isDigit = true

end Numeral

/-- What a JSON text tells. -/
inductive Tree where
  | null
  | boolean (b : Bool)
  | numeral (n : Numeral)
  | text (us : List Nat)
  | list (items : List Tree)
  | object (members : List (List Nat × Tree))

/-- The inside of a text spells these code units. -/
inductive SpellsText : List Nat → Bytes → Prop where
  | empty : SpellsText [] []
  | plain {c : Char} {us : List Nat} {w : Bytes} (quote : c.toNat ≠ 0x22)
      (backslash : c.toNat ≠ 0x5c) (control : 0x20 ≤ c.toNat) (rest : SpellsText us w) :
      SpellsText (charUnits c ++ us) (String.utf8EncodeChar c ++ w)
  | letter {c e : UInt8} {us : List Nat} {w : Bytes} (escape : escapeByte? c = some e)
      (rest : SpellsText us w) : SpellsText (e.toNat :: us) (0x5c :: c :: w)
  | code {a b c d : UInt8} {n : Nat} {us : List Nat} {w : Bytes}
      (digits : hexUnit? a b c d = some n) (rest : SpellsText us w) :
      SpellsText (n :: us) (0x5c :: 0x75 :: a :: b :: c :: d :: w)

def IsBlanks (b : Bytes) : Prop := ∀ c ∈ b, isBlank c = true

/-- What stands between two items: blanks and a comma, but nothing in front of the first item. -/
def separator (first : Bool) (blanks : Bytes) : Bytes := if first then [] else blanks ++ [0x2c]

/-- A part of a text: a value, or what is left of a list or an object with its closing bracket. -/
inductive Part where
  | value (v : Tree)
  | items (first : Bool) (vs : List Tree)
  | members (first : Bool) (ms : List (List Nat × Tree))

/-- The bytes spell the part, without blanks around it. -/
inductive Spells : Part → Bytes → Prop where
  | null : Spells (.value .null) [0x6e, 0x75, 0x6c, 0x6c]
  | boolean (b : Bool) : Spells (.value (.boolean b))
      (if b then [0x74, 0x72, 0x75, 0x65] else [0x66, 0x61, 0x6c, 0x73, 0x65])
  | numeral {n : Numeral} (wellFormed : n.WellFormed) : Spells (.value (.numeral n)) n.bytes
  | text {us : List Nat} {w : Bytes} (inside : SpellsText us w) :
      Spells (.value (.text us)) (0x22 :: (w ++ [0x22]))
  | list {vs : List Tree} {w : Bytes} (items : Spells (.items true vs) w) :
      Spells (.value (.list vs)) (0x5b :: w)
  | object {ms : List (List Nat × Tree)} {w : Bytes} (members : Spells (.members true ms) w) :
      Spells (.value (.object ms)) (0x7b :: w)
  | listEnd {first : Bool} {b : Bytes} (blanks : IsBlanks b) :
      Spells (.items first []) (b ++ [0x5d])
  | item {first : Bool} {v : Tree} {vs : List Tree} {b b' t w : Bytes} (blanks : IsBlanks b)
      (blanks' : IsBlanks b') (value : Spells (.value v) t) (rest : Spells (.items false vs) w) :
      Spells (.items first (v :: vs)) (separator first b ++ (b' ++ (t ++ w)))
  | objectEnd {first : Bool} {b : Bytes} (blanks : IsBlanks b) :
      Spells (.members first []) (b ++ [0x7d])
  | member {first : Bool} {us : List Nat} {v : Tree} {ms : List (List Nat × Tree)}
      {b b' n c c' t w : Bytes} (blanks : IsBlanks b) (blanks' : IsBlanks b')
      (name : SpellsText us n) (colon : IsBlanks c) (colon' : IsBlanks c')
      (value : Spells (.value v) t) (rest : Spells (.members false ms) w) :
      Spells (.members first ((us, v) :: ms))
        (separator first b ++ (b' ++ 0x22 :: (n ++ 0x22 :: (c ++ 0x3a :: (c' ++ (t ++ w))))))

/-- A whole text tells the tree. -/
def Tells (w : Bytes) (v : Tree) : Prop :=
  ∃ b t b', IsBlanks b ∧ Spells (.value v) t ∧ IsBlanks b' ∧ w = b ++ (t ++ b')

end DeviceRegistry.Json
