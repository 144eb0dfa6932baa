import DeviceRegistry.Json.Value
import DeviceRegistry.Number.Decimal

/-! The tokens of JSON, read off the front of a byte sequence. The state of a reader is the input
still to come, also when it fails: the place of a failure is behind what had been read. -/
namespace DeviceRegistry.Json

/-- A reader of something of type `α`. -/
abbrev Reader := EStateM Failure Bytes

namespace Reader

def fail {α : Type} (cause : Cause) : Reader α := throw ⟨cause, []⟩
def unfinished {α : Type} (what : Unfinished) : Reader α := fail (.unfinished what)
def malformed {α : Type} (what : Malformed) : Reader α := fail (.malformed what)
def mismatch {α : Type} (what : Mismatch) : Reader α := fail (.mismatch what)

/-- A reader whose failures lie one step further in. -/
def inside {α : Type} (s : Segment) (r : Reader α) : Reader α := fun input =>
  match r input with
  | .ok a rest => .ok a rest
  | .error f rest => .error (f.inside s) rest

/-- The next byte, which stays. -/
def peek? : Reader (Option UInt8) := fun input => .ok input.head? input

def drop : Reader Unit := fun input => .ok () input.tail

def next? : Reader (Option UInt8) := fun input => .ok input.head? input.tail

/-- The next byte breaks the grammar, and the place of the failure is behind it. -/
def unexpected {α : Type} (what : Malformed) : Reader α := do drop; malformed what

end Reader

def isBlank (c : UInt8) : Bool := c == 0x20 || c == 0x0a || c == 0x09 || c == 0x0d

def isDigit (c : UInt8) : Bool := decide (0x30 ≤ c ∧ c ≤ 0x39)

namespace Reader

def blanks : Reader Unit := fun input => .ok () (input.dropWhile isBlank)

/-- The first byte after blanks, which stays. -/
def peekToken? : Reader (Option UInt8) := do blanks; peek?

/-- The rest of a word such as `null`, whose first letter has been taken. -/
def word : Bytes → Reader Unit
  | [] => pure ()
  | c :: rest => do
    match ← next? with
    | none => unfinished .value
    | some d => if d = c then word rest else malformed .expectedWord

/-- `ull`, the rest of `null`. -/
def nullRest : Reader Unit := word [0x75, 0x6c, 0x6c]

/-- `rue`, the rest of `true`. -/
def trueRest : Reader Unit := word [0x72, 0x75, 0x65]

/-- `alse`, the rest of `false`. -/
def falseRest : Reader Unit := word [0x61, 0x6c, 0x73, 0x65]

end Reader

def hexValue? (c : UInt8) : Option Nat :=
  if 0x30 ≤ c ∧ c ≤ 0x39 then some (c.toNat - 0x30)
  else if 0x41 ≤ c ∧ c ≤ 0x46 then some (c.toNat - 0x37)
  else if 0x61 ≤ c ∧ c ≤ 0x66 then some (c.toNat - 0x57)
  else none

def hexUnit? (a b c d : UInt8) : Option Nat := do
  return (((← hexValue? a) * 16 + (← hexValue? b)) * 16 + (← hexValue? c)) * 16 + (← hexValue? d)

/-- The byte that a one-letter escape stands for. -/
def escapeByte? (c : UInt8) : Option UInt8 :=
  if c = 0x22 ∨ c = 0x5c ∨ c = 0x2f then some c
  else if c = 0x62 then some 0x08
  else if c = 0x66 then some 0x0c
  else if c = 0x6e then some 0x0a
  else if c = 0x72 then some 0x0d
  else if c = 0x74 then some 0x09
  else none

/-- The UTF-8 bytes of a code point, last byte first. -/
def encodedBackwards (n : Nat) : Bytes := (Bytes.ofText (String.ofList [Char.ofNat n])).reverse

def isLeading (n : Nat) : Bool := decide (0xd800 ≤ n ∧ n ≤ 0xdbff)
def isTrailing (n : Nat) : Bool := decide (0xdc00 ≤ n ∧ n ≤ 0xdfff)

/-- The code point of a surrogate pair. -/
def pairedCode (leading trailing : Nat) : Nat :=
  0x10000 + (leading - 0xd800) * 0x400 + (trailing - 0xdc00)

/-- The bytes of a text up to its closing quote, added in front of `acc`, so that the answer is
backwards. A leading surrogate has to be followed at once by the escape of a trailing one. -/
def textRest : Bytes → Bytes → EStateM.Result Failure Bytes Bytes
  | [], _ => .error ⟨.unfinished .text, []⟩ []
  | 0x5c :: 0x75 :: a :: b :: c :: d :: rest, acc =>
    match hexUnit? a b c d with
    | none => .error ⟨.malformed .badEscape, []⟩ rest
    | some n =>
      if isTrailing n then .error ⟨.malformed .loneSurrogate, []⟩ rest
      else if isLeading n then
        match rest with
        | [] => .error ⟨.unfinished .text, []⟩ []
        | 0x5c :: [] => .error ⟨.unfinished .text, []⟩ []
        | 0x5c :: 0x75 :: e :: f :: g :: h :: rest =>
          match hexUnit? e f g h with
          | none => .error ⟨.malformed .badEscape, []⟩ rest
          | some m =>
            if isTrailing m then textRest rest (encodedBackwards (pairedCode n m) ++ acc)
            else .error ⟨.malformed .loneSurrogate, []⟩ rest
        | 0x5c :: 0x75 :: _ => .error ⟨.unfinished .text, []⟩ []
        | 0x5c :: _ :: rest => .error ⟨.malformed .unfinishedSurrogate, []⟩ rest
        | _ :: rest => .error ⟨.malformed .unfinishedSurrogate, []⟩ rest
      else textRest rest (encodedBackwards n ++ acc)
  | 0x5c :: 0x75 :: _, _ => .error ⟨.unfinished .text, []⟩ []
  | 0x5c :: c :: rest, acc =>
    match escapeByte? c with
    | none => .error ⟨.malformed .badEscape, []⟩ rest
    | some e => textRest rest (e :: acc)
  | 0x5c :: [], _ => .error ⟨.unfinished .text, []⟩ []
  | c :: rest, acc =>
    if c = 0x22 then .ok acc rest
    else if c < 0x20 then .error ⟨.malformed .controlCharacter, []⟩ rest
    else textRest rest (c :: acc)

namespace Reader

/-- A text whose opening quote has been taken. -/
def quotedRest : Reader String := do
  match Bytes.text? (← (textRest · [])).reverse with
  | some s => pure s
  | none => malformed .badEncoding

/-- The digits in front, as the number they make behind `n`, and how many there are. -/
def digits (n : Nat) : Reader (Nat × Nat) := fun input =>
  let ds := input.takeWhile isDigit
  .ok (ds.foldl (fun n c => n * 10 + (c.toNat - 0x30)) n, ds.length) (input.dropWhile isDigit)

/-- The digits in front of the point: a zero alone, or digits that begin with another one. -/
def wholePart : Reader Nat := do
  match ← next? with
  | none => unfinished .value
  | some c =>
    if c = 0x30 then
      if (← peek?).any isDigit then unexpected .badNumber else pure 0
    else if isDigit c then return (← digits (c.toNat - 0x30)).1
    else malformed .badNumber

/-- The digits behind the point, which has been taken. -/
def fractionPart (n : Nat) : Reader (Nat × Nat) := do
  let (n, places) ← digits n
  if places = 0 then
    match ← peek? with
    | none => unfinished .value
    | some _ => unexpected .badNumber
  else pure (n, places)

/-- The exponent behind its letter, which has been taken. -/
def exponentPart : Reader Int := do
  let sign ← peek?
  if sign = some 0x2b ∨ sign = some 0x2d then drop
  match ← next? with
  | none => unfinished .value
  | some c =>
    if isDigit c then
      let (n, _) ← digits (c.toNat - 0x30)
      return if sign = some 0x2d then -n else n
    else malformed .badNumber

def isExponentMark (c : UInt8) : Bool := c == 0x65 || c == 0x45

def exponentIfAny : Reader (Option Int) := do
  if (← peek?).any isExponentMark then drop; return some (← exponentPart)
  else return none

/-- The double-precision number of a numeral, rounded correctly however many digits there are. One
beyond the finite numbers is refused, behind its last digit. -/
def realOf (x : Decimal) : Reader Number :=
  if x.nearest.isFinite then pure (.real x.nearest) else malformed .numberOutOfRange

end Reader

/-- A whole numeral without point and exponent. One that fits 64 bits stays whole; a minus in
front of zero, and every numeral that does not fit, is double-precision. -/
def wholeNumber? (negative : Bool) (n : Nat) : Option Number :=
  if negative then if 0 < n ∧ n ≤ UInt64.size / 2 then some (.negative (UInt64.ofNat n)) else none
  else if n < UInt64.size then some (.unsigned (UInt64.ofNat n)) else none

namespace Reader

/-- A numeral behind its sign. -/
def numberRest (negative : Bool) : Reader Number := do
  let n ← wholePart
  if (← peek?) = some 0x2e then
    drop
    let (n, places) ← fractionPart n
    let e ← exponentIfAny
    realOf ⟨negative, n, e.getD 0 - places⟩
  else
    match ← exponentIfAny with
    | some e => realOf ⟨negative, n, e⟩
    | none =>
      match wholeNumber? negative n with
      | some number => pure number
      | none => realOf ⟨negative, n, 0⟩

/-- A numeral; its first byte is known to be a minus or a digit. -/
def number : Reader Number := do
  if (← peek?) = some 0x2d then drop; numberRest true
  else numberRest false

end Reader
end DeviceRegistry.Json
