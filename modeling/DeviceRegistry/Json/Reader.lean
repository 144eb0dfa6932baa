import DeviceRegistry.Json.Lexer

/-! Readers of values without members. What is not asked for is still read to its end, so that a
breach of the grammar wins over a value of the wrong type. -/
namespace DeviceRegistry.Json

/-- The double-precision number nearest to a literal. -/
def Number.toReal : Number → Binary64
  | unsigned n => Binary64.ofNat n.toNat
  | negative n => (Binary64.ofNat n.toNat).neg
  | real x => x

namespace Reader

/-- The next value. Of a list or an object only the kind is told, and its bracket stays. -/
def found : Reader Found := do
  match ← peekToken? with
  | none => unfinished .value
  | some c =>
    if c = 0x6e then drop; nullRest; return .null
    else if c = 0x74 then drop; trueRest; return .boolean true
    else if c = 0x66 then drop; falseRest; return .boolean false
    else if c = 0x2d ∨ isDigit c then return .number (← number)
    else if c = 0x22 then drop; return .text (← quotedRest)
    else if c = 0x5b then return .list
    else if c = 0x7b then return .object
    else unexpected .expectedValue

def text : Reader String := do
  match ← found with
  | .text s => return s
  | other => mismatch (.wrongType other "a string")

/-- A number, rounded to double precision. -/
def real : Reader Binary64 := do
  match ← found with
  | .number n => return n.toReal
  | other => mismatch (.wrongType other "f64")

/-- A whole number from 0 to `2^64 - 1`. -/
def natural : Reader UInt64 := do
  match ← found with
  | .number (.unsigned n) => return n
  | .number (.negative n) => mismatch (.wrongValue (.number (.negative n)) "u64")
  | other => mismatch (.wrongType other "u64")

def unit : Reader Unit := do
  match ← found with
  | .null => return ()
  | other => mismatch (.wrongType other "unit")

/-- Null for nothing, or a value. -/
def nullable {α : Type} (r : Reader α) : Reader (Option α) := do
  if (← peekToken?) = some 0x6e then drop; nullRest; return none
  else return some (← r)

/-- There is another element in front of the closing bracket. A comma that separates the elements
is taken. -/
def anotherElement (first : Bool) : Reader Bool := do
  match ← peekToken? with
  | none => unfinished .list
  | some c =>
    if c = 0x5d then return false
    else if first then return true
    else if c = 0x2c then
      drop
      match ← peekToken? with
      | none => unfinished .value
      | some d => if d = 0x5d then unexpected .trailingComma else return true
    else unexpected .expectedCommaOrBracket

/-- There is another member in front of the closing brace. Its opening quote is next. -/
def anotherMember (first : Bool) : Reader Bool := do
  match ← peekToken? with
  | none => unfinished .object
  | some c =>
    if c = 0x7d then return false
    else if first then
      if c = 0x22 then return true else unexpected .keyNotText
    else if c = 0x2c then
      drop
      match ← peekToken? with
      | none => unfinished .value
      | some d =>
        if d = 0x22 then return true
        else if d = 0x7d then unexpected .trailingComma
        else unexpected .keyNotText
    else unexpected .expectedCommaOrBrace

def colon : Reader Unit := do
  match ← peekToken? with
  | none => unfinished .object
  | some c => if c = 0x3a then drop else unexpected .expectedColon

/-- The name of the next member, if there is one. -/
def nextName? (first : Bool) : Reader (Option String) :=
  inside .betweenMembers do
    if ← anotherMember first then drop; return some (← quotedRest)
    else return none

/-- The end of a list whose elements have all been read. -/
def listEnd : Reader Unit := do
  match ← peekToken? with
  | none => unfinished .list
  | some c =>
    if c = 0x5d then drop
    else if c = 0x2c then
      drop
      if (← peekToken?) = some 0x5d then unexpected .trailingComma
      else unexpected .trailingCharacters
    else unexpected .trailingCharacters

/-- Refuses the object that is being read. Its closing brace, if that is next, is still taken. -/
def refuseObject {α : Type} (what : Mismatch) : Reader α := fun input =>
  .error ⟨.mismatch what, []⟩ <|
    match input.dropWhile isBlank with
    | 0x7d :: rest => rest
    | rest => rest

/-- Refuses the list that is being read. Its closing bracket or a comma, if that is next, is still
taken. -/
def refuseList {α : Type} (what : Mismatch) : Reader α := fun input =>
  .error ⟨.mismatch what, []⟩ <|
    match input.dropWhile isBlank with
    | 0x5d :: rest => rest
    | 0x2c :: rest => rest.dropWhile isBlank
    | rest => rest

def finish : Reader Unit := do
  if (← peekToken?).isSome then unexpected .trailingCharacters

end Reader

def read {α : Type} (r : Reader α) (input : Bytes) : Except Failure α :=
  match (do let a ← r; Reader.finish; return a : Reader α) input with
  | .ok a _ => .ok a
  | .error f _ => .error f

/-- Reads a whole text; a failure comes with the place where reading stopped. -/
def readPlacing {α : Type} (r : Reader α) (input : Bytes) : Except (Failure × Place) α :=
  match (do let a ← r; Reader.finish; return a : Reader α) input with
  | .ok a _ => .ok a
  | .error f rest => .error (f, .behind (input.take (input.length - rest.length)))

end DeviceRegistry.Json
