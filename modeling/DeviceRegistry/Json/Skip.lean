import DeviceRegistry.Json.Lexer

/-! Passing over a value that nobody asks for. It has to be well formed, but its numbers may have
any size, its texts are not decoded, and it may be nested to any depth: the open brackets are kept
in a list, innermost first. -/
namespace DeviceRegistry.Json

inductive Bracket where
  | list | object
deriving DecidableEq

namespace Bracket

def closing : Bracket → UInt8
  | list => 0x5d
  | object => 0x7d

def unfinished : Bracket → Unfinished
  | list => .list
  | object => .object

def expectedNext : Bracket → Malformed
  | list => .expectedCommaOrBracket
  | object => .expectedCommaOrBrace

end Bracket

/-- The bytes behind a text whose opening quote has been taken. Escapes are checked by their form
alone, and a control character stays where it is found. -/
def skipTextRest : Bytes → EStateM.Result Failure Bytes Unit
  | [] => .error ⟨.unfinished .text, []⟩ []
  | 0x5c :: 0x75 :: a :: b :: c :: d :: rest =>
    if (hexUnit? a b c d).isSome then skipTextRest rest
    else .error ⟨.malformed .badEscape, []⟩ rest
  | 0x5c :: 0x75 :: _ => .error ⟨.unfinished .text, []⟩ []
  | 0x5c :: c :: rest =>
    if (escapeByte? c).isSome then skipTextRest rest
    else .error ⟨.malformed .badEscape, []⟩ rest
  | 0x5c :: [] => .error ⟨.unfinished .text, []⟩ []
  | c :: rest =>
    if c = 0x22 then .ok () rest
    else if c < 0x20 then .error ⟨.malformed .controlCharacter, []⟩ (c :: rest)
    else skipTextRest rest

namespace Reader

/-- Passes over digits; there has to be one. -/
def skipDigits : Reader Unit := do
  if (← peek?).any isDigit then let _ ← digits 0
  else unexpected .badNumber

def skipExponentIfAny : Reader Unit := do
  if (← peek?).any isExponentMark then
    drop
    let sign ← peek?
    if sign = some 0x2b ∨ sign = some 0x2d then drop
    skipDigits

/-- Passes over the digits in front of the point. -/
def skipWhole : Reader Unit := do
  if (← peek?) = some 0x30 then
    drop
    if (← peek?).any isDigit then unexpected .badNumber
  else skipDigits

/-- Passes over a numeral behind its sign. -/
def skipNumberRest : Reader Unit := do
  skipWhole
  if (← peek?) = some 0x2e then drop; skipDigits
  skipExponentIfAny

/-- Passes over a value without brackets, of which `c` is the first byte. -/
def skipScalar (c : UInt8) : Reader Unit := do
  if c = 0x6e then drop; nullRest
  else if c = 0x74 then drop; trueRest
  else if c = 0x66 then drop; falseRest
  else if c = 0x2d then drop; skipNumberRest
  else if isDigit c then skipNumberRest
  else if c = 0x22 then drop; skipTextRest
  else unexpected .expectedValue

/-- Passes over a member's name and its colon. -/
def skipName : Reader Unit := do
  match ← peekToken? with
  | none => unfinished .object
  | some c =>
    if c = 0x22 then drop; skipTextRest
    else unexpected .keyNotText
  match ← peekToken? with
  | none => unfinished .object
  | some c => if c = 0x3a then drop else unexpected .expectedColon

/-- What may come next between the brackets. -/
inductive SkipStage where
  | value
  /-- The first item, or the closing bracket. -/
  | opened
  /-- A comma, or the closing bracket. -/
  | after

/-- Passes over the rest of a value inside the open brackets. Two steps take at least one byte, so
that twice the input's length is enough fuel. -/
def skipRest : Nat → SkipStage → List Bracket → Reader Unit
  | 0, _, _ => unfinished .value
  | fuel + 1, .value, open_ => do
    match ← peekToken? with
    | none => unfinished .value
    | some c =>
      if c = 0x5b then drop; skipRest fuel .opened (.list :: open_)
      else if c = 0x7b then drop; skipRest fuel .opened (.object :: open_)
      else skipScalar c; skipRest fuel .after open_
  | fuel + 1, .opened, b :: outer => do
    match ← peekToken? with
    | none => unfinished b.unfinished
    | some c =>
      if c = b.closing then drop; skipRest fuel .after outer
      else
        if b = .object then skipName
        skipRest fuel .value (b :: outer)
  | fuel + 1, .after, b :: outer => do
    match ← peekToken? with
    | none => unfinished b.unfinished
    | some c =>
      if c = 0x2c then
        drop
        if b = .object then skipName
        skipRest fuel .value (b :: outer)
      else if c = b.closing then drop; skipRest fuel .after outer
      else unexpected b.expectedNext
  | _ + 1, _, [] => pure ()

def skipValue : Reader Unit := fun input => skipRest (2 * input.length + 2) .value [] input

end Reader
end DeviceRegistry.Json
