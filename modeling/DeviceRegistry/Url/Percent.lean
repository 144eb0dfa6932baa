import DeviceRegistry.Text.Bytes

/-! Percent-encoding. Every part of a URL has its own set of characters that are encoded; control
characters and whatever is not ASCII are encoded everywhere. -/
namespace DeviceRegistry.Percent

/-- The printable ASCII characters that a part encodes. -/
abbrev EncodeSet := List Char

def fragmentSet : EncodeSet := [' ', '"', '<', '>', '`']
def querySet : EncodeSet := [' ', '"', '#', '<', '>']
def specialQuerySet : EncodeSet := '\'' :: querySet
def pathSet : EncodeSet := ['#', '?', '\x7b', '\x7d'] ++ fragmentSet
def userinfoSet : EncodeSet := ['/', ':', ';', '=', '@', '[', '\\', ']', '^', '|'] ++ pathSet

def hexDigit (n : Nat) : Char := Char.ofNat (if n < 10 then 0x30 + n else 0x37 + n)

def encodeByte (b : UInt8) : List Char := ['%', hexDigit (b.toNat / 16), hexDigit (b.toNat % 16)]

def encodeChar (set : EncodeSet) (c : Char) : List Char :=
  if 0x20 ≤ c.toNat ∧ c.toNat < 0x7f ∧ !set.contains c then [c]
  else (Bytes.ofText (String.ofList [c])).flatMap encodeByte

def encode (set : EncodeSet) (cs : List Char) : List Char := cs.flatMap (encodeChar set)

def encodeText (set : EncodeSet) (cs : List Char) : String := String.ofList (encode set cs)

def hexValue? (b : UInt8) : Option UInt8 :=
  if 0x30 ≤ b ∧ b ≤ 0x39 then some (b - 0x30)
  else if 0x41 ≤ b ∧ b ≤ 0x46 then some (b - 0x37)
  else if 0x61 ≤ b ∧ b ≤ 0x66 then some (b - 0x57)
  else none

/-- Decodes what is encoded and leaves the rest. -/
def decode : Bytes → Bytes
  | 0x25 :: a :: b :: rest =>
    match hexValue? a, hexValue? b with
    | some x, some y => (x * 16 + y) :: decode rest
    | _, _ => 0x25 :: decode (a :: b :: rest)
  | c :: rest => c :: decode rest
  | [] => []

def decodeText (cs : List Char) : Bytes := decode (Bytes.ofText (String.ofList cs))

end DeviceRegistry.Percent
