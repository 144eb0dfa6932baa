/-! Tables about characters, written as text: words between blanks, codes in hexadecimal. -/
namespace DeviceRegistry.Text

/-- The number that lower-case hexadecimal digits spell. -/
def codeOf (digits : List Char) : Nat :=
  digits.foldl (fun n d => n * 16 + (if d.isDigit then d.toNat - 0x30 else d.toNat - 0x57)) 0

def wordsOf (s : String) : List (List Char) :=
  (s.toList.splitOnP Char.isWhitespace).filter (!·.isEmpty)

/-- The codes from `first` to `last`. -/
structure CodeRange where
  first : Nat
  last : Nat
deriving DecidableEq, Inhabited

/-- The range of a word such as `61-7a`, or of one code alone. -/
def CodeRange.ofWord (word : List Char) : CodeRange :=
  match word.splitOn '-' with
  | [first, last] => ⟨codeOf first, codeOf last⟩
  | _ => ⟨codeOf word, codeOf word⟩

def CodeRange.contains (r : CodeRange) (n : Nat) : Bool := r.first ≤ n && n ≤ r.last

structure CodeSet where
  ranges : List CodeRange
deriving DecidableEq, Inhabited

namespace CodeSet

def ofText (s : String) : CodeSet := ⟨(wordsOf s).map CodeRange.ofWord⟩

def contains (s : CodeSet) (c : Char) : Bool := s.ranges.any (·.contains c.toNat)

end CodeSet

/-- The characters of a range, or every second one of them, and the text that stands for the
first. A text of one character goes along with the range: the further characters have the further
ones. -/
structure Replacement where
  range : CodeRange
  step : Nat
  text : List Nat
deriving DecidableEq, Inhabited

namespace Replacement

/-- The replacement of a word such as `41-5a=61`, `100-12e/2=101` or `132=69+6a`. -/
def ofWord (word : List Char) : Replacement :=
  let source := word.takeWhile (· != '=')
  let target := (word.dropWhile (· != '=')).drop 1
  { range := .ofWord (source.takeWhile (· != '/'))
    step := if source.contains '/' then 2 else 1
    text := ((target.splitOn '+').filter (!·.isEmpty)).map codeOf }

/-- The codes that stand for a code. -/
def get? (r : Replacement) (n : Nat) : Option (List Nat) :=
  if r.range.contains n && (n - r.range.first) % r.step == 0 then
    match r.text with
    | [code] => some [code + (n - r.range.first)]
    | codes => some codes
  else none

end Replacement

/-- Texts that stand for characters. -/
structure ReplacementTable where
  entries : List Replacement
deriving DecidableEq, Inhabited

namespace ReplacementTable

def ofText (s : String) : ReplacementTable := ⟨(wordsOf s).map Replacement.ofWord⟩

/-- The text that stands for a character, if there is one. -/
def get? (t : ReplacementTable) (c : Char) : Option (List Char) :=
  (t.entries.findSome? (·.get? c.toNat)).map (·.map Char.ofNat)

end ReplacementTable
end DeviceRegistry.Text
