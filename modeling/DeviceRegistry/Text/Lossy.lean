import DeviceRegistry.Text.Bytes

/-! Reading bytes as UTF-8 whatever they are. Where they are not valid, the longest part that
begins a character, or else a single byte, is read as the replacement character. -/
namespace DeviceRegistry.Bytes

def isContinuation (c : UInt8) : Bool := decide (0x80 ≤ c ∧ c ≤ 0xbf)

/-- How many bytes a character with that first byte has, and the least and greatest second byte. -/
def leadBounds? (c : UInt8) : Option (Nat × UInt8 × UInt8) :=
  if c < 0x80 then some (1, 0, 0)
  else if 0xc2 ≤ c ∧ c ≤ 0xdf then some (2, 0x80, 0xbf)
  else if c = 0xe0 then some (3, 0xa0, 0xbf)
  else if c = 0xed then some (3, 0x80, 0x9f)
  else if 0xe1 ≤ c ∧ c ≤ 0xef then some (3, 0x80, 0xbf)
  else if c = 0xf0 then some (4, 0x90, 0xbf)
  else if 0xf1 ≤ c ∧ c ≤ 0xf3 then some (4, 0x80, 0xbf)
  else if c = 0xf4 then some (4, 0x80, 0x8f)
  else none

/-- The longest part at the front that begins a character, and whether it is a whole one. -/
def frontPart : Bytes → Bytes × Bool
  | [] => ([], false)
  | c :: rest =>
    match leadBounds? c with
    | none => ([c], false)
    | some (1, _, _) => ([c], true)
    | some (length, low, high) =>
      match rest with
      | d :: more =>
        if low ≤ d ∧ d ≤ high then
          let tail := (more.take (length - 2)).takeWhile isContinuation
          (c :: d :: tail, tail.length == length - 2)
        else ([c], false)
      | [] => ([c], false)

def replacement : Char := '\ufffd'

/-- Reads at most `n` parts. -/
def lossyChars : Nat → Bytes → List Char
  | 0, _ => []
  | _ + 1, [] => []
  | n + 1, c :: rest =>
    let (part, whole) := frontPart (c :: rest)
    let text := if whole then text? part else none
    (text.map String.toList).getD [replacement] ++ lossyChars n ((c :: rest).drop part.length)

def lossyText (b : Bytes) : String := (text? b).getD (String.ofList (lossyChars b.length b))

end DeviceRegistry.Bytes
