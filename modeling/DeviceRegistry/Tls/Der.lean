import DeviceRegistry.Text.Bytes

/-! Values in their distinguished encoding: a tag, the length of the content in its shortest form,
and the content. -/
namespace DeviceRegistry.Der

namespace Tag

def boolean : UInt8 := 0x01
def integer : UInt8 := 0x02
def bitString : UInt8 := 0x03
def octetString : UInt8 := 0x04
def identifier : UInt8 := 0x06
def sequence : UInt8 := 0x30

/-- A number that the surrounding type gives to a value, which is kept as it is. -/
def numbered (n : UInt8) : UInt8 := 0x80 + n

/-- A number that the surrounding type puts around a value. -/
def around (n : UInt8) : UInt8 := 0xa0 + n

end Tag

/-- The bytes of a length below `2 ^ 16`. -/
def lengthBytes (n : Nat) : Bytes :=
  if n < 0x80 then [n.toUInt8]
  else if n < 0x100 then [0x81, n.toUInt8]
  else 0x82 :: Bytes.ofNat 2 n

def encode (tag : UInt8) (content : Bytes) : Bytes := tag :: lengthBytes content.length ++ content

/-- A reader that tells what is left. -/
abbrev Reader := StateT Bytes Option

/-- The length in front, which has to be in its shortest form. -/
def length : Reader Nat
  | n :: rest =>
    if n < 0x80 then some (n.toNat, rest)
    else
      match n, rest with
      | 0x81, a :: rest => if 0x80 ≤ a then some (a.toNat, rest) else none
      | 0x82, a :: b :: rest => if a ≠ 0 then some (a.toNat * 256 + b.toNat, rest) else none
      | _, _ => none
  | [] => none

/-- The content of the next value, which has to have that tag. -/
def value (tag : UInt8) : Reader Bytes
  | t :: rest => do
    let (n, rest) ← length rest
    if t = tag ∧ n ≤ rest.length then some (rest.take n, rest.drop n) else none
  | [] => none

/-- The content of the next value, if it has that tag. -/
def value? (tag : UInt8) : Reader (Option Bytes) := fun b =>
  if b.head? = some tag then (value tag b).map fun (content, rest) => (some content, rest)
  else some (none, b)

def whole {α : Type} (r : Reader α) (content : Bytes) : Option α :=
  match r content with
  | some (a, []) => some a
  | _ => none

/-- Reads the content of the next value. -/
def inside {α : Type} (tag : UInt8) (r : Reader α) : Reader α := do
  let content ← value tag
  fun b => (whole r content).map (·, b)

/-- The bytes of a bit string of whole bytes. -/
def wholeBytes (content : Bytes) : Option Bytes :=
  match content with
  | 0 :: bytes => some bytes
  | _ => none

def bitString : Reader Bytes := do
  let content ← value Tag.bitString
  fun b => (wholeBytes content).map (·, b)

/-- A number that is not negative, in its shortest form. -/
def natural : Reader Nat := do
  match ← value Tag.integer with
  | [] => failure
  | [a] => if a < 0x80 then return a.toNat else failure
  | a :: b :: rest =>
    if a < 0x80 ∧ (a ≠ 0 ∨ 0x80 ≤ b) then return Bytes.toNat (a :: b :: rest) else failure

/-- The shortest content of a number. -/
def naturalBytes (n : Nat) : Bytes := Bytes.ofNat (n.log2 / 8 + 1) n

/-- The encoding of a number; a zero goes in front where its first bit would tell a sign. -/
def encodeNatural (n : Nat) : Bytes :=
  let bytes := naturalBytes n
  encode Tag.integer (if bytes.head?.any (0x80 ≤ ·) then 0 :: bytes else bytes)

end DeviceRegistry.Der
