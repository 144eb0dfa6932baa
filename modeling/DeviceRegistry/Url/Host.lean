import DeviceRegistry.Url.Basic
import DeviceRegistry.Url.Domain

/-! Reading hosts. The special schemes have domain names and addresses; a name whose last label is
a number has to be an address. -/
namespace DeviceRegistry.Host

/-- The value of a digit below a radix of at most 16. -/
def digit? (radix : Nat) (c : Char) : Option Nat := do
  let n ← if c.isDigit then some (c.toNat - 0x30)
    else if 'a' ≤ c ∧ c ≤ 'f' then some (c.toNat - 0x57)
    else if 'A' ≤ c ∧ c ≤ 'F' then some (c.toNat - 0x37)
    else none
  if n < radix then some n else none

/-- A number all of whose characters are digits. -/
def numeral? (radix : Nat) (cs : List Char) : Option Nat :=
  cs.foldlM (fun n c => do return n * radix + (← digit? radix c)) 0

/-- A part of an address in numbers: decimal, octal behind a zero, hexadecimal behind `0x`. -/
def ipv4Part? : List Char → Option Nat
  | [] => none
  | '0' :: 'x' :: rest => numeral? 16 rest
  | '0' :: 'X' :: rest => numeral? 16 rest
  | '0' :: c :: rest => numeral? 8 (c :: rest)
  | cs => numeral? 10 cs

/-- The labels of a name, between its dots. -/
def labels (cs : List Char) : List (List Char) := cs.splitOn '.'

/-- The labels without an empty one at the end. -/
def trimmedLabels (cs : List Char) : List (List Char) :=
  let ls := labels cs
  if 1 < ls.length ∧ ls.getLast? = some [] then ls.dropLast else ls

/-- The last label looks like a number. -/
def endsInNumber (cs : List Char) : Bool :=
  match (trimmedLabels cs).getLast? with
  | none => false
  | some last => (!last.isEmpty && last.all Char.isDigit) || (ipv4Part? last).isSome

/-- One to four numbers, of which the last fills all bytes that are left. -/
def ipv4? (cs : List Char) : Option Ipv4 := do
  let parts ← (trimmedLabels cs).mapM ipv4Part?
  guard (parts.length ≤ 4)
  let last ← parts.getLast?
  let front := parts.dropLast
  guard (front.all (· < 256) && last < Nat.pow 256 (4 - front.length))
  let n := front.foldl (fun n p => n * 256 + p) 0 * Nat.pow 256 (4 - front.length) + last
  let byte (i : Nat) : UInt8 := (n / Nat.pow 256 i).toUInt8
  return ⟨byte 3, byte 2, byte 1, byte 0⟩

/-- Decimal numbers below 256 without a zero in front, between dots. -/
def octet? (cs : List Char) : Option Nat := do
  guard (!cs.isEmpty && (cs.length == 1 || cs.head? != some '0'))
  let n ← numeral? 10 cs
  guard (n < 256)
  return n

/-- The two groups of an address at the end of a longer one. -/
def trailingGroups? (cs : List Char) : Option (List UInt16) := do
  match ← (labels cs).mapM octet? with
  | [a, b, c, d] => return [(a * 256 + b).toUInt16, (c * 256 + d).toUInt16]
  | _ => none

/-- Groups of one to four digits between colons, nothing for none. The last may be a short
address. -/
def groupList? (cs : List Char) : Option (List UInt16) :=
  if cs.isEmpty then some []
  else
    let parts := cs.splitOn ':'
    let group (part : List Char) : Option (List UInt16) := do
      guard (!part.isEmpty && part.length ≤ 4)
      return [(← numeral? 16 part).toUInt16]
    do
      let front ← parts.dropLast.mapM group
      let last := (parts.getLast?).getD []
      let back ← if last.contains '.' then trailingGroups? last else group last
      return front.flatten ++ back

/-- Splits at the first double colon. -/
def splitGap? : List Char → Option (List Char × List Char)
  | ':' :: ':' :: rest => some ([], rest)
  | c :: rest => (splitGap? rest).map fun (front, back) => (c :: front, back)
  | [] => none

/-- Eight groups, of which a double colon may leave out one or more that are zero. -/
def ipv6? (cs : List Char) : Option Ipv6 :=
  match splitGap? cs with
  | none => do Ipv6.ofGroups? (← groupList? cs)
  | some (front, back) => do
    guard (!front.contains '.')
    let head ← groupList? front
    let tail ← groupList? back
    guard (head.length + tail.length < 8)
    Ipv6.ofGroups? (head ++ List.replicate (8 - head.length - tail.length) 0 ++ tail)

def bracketed (cs : List Char) : Except UrlError Host :=
  if cs.getLast? = some ']' then
    match ipv6? ((cs.drop 1).dropLast) with
    | some address => .ok (.ipv6 address)
    | none => .error .badIpv6
  else .error .badIpv6

def parse (cs : List Char) : Except UrlError Host :=
  if cs.head? = some '[' then bracketed cs
  else
    match (Bytes.text? (Percent.decodeText cs)).bind fun s => Domain.ascii? s.toList with
    | none => .error .badDomain
    | some [] => .error .emptyHost
    | some domain =>
      if endsInNumber domain then
        match ipv4? domain with
        | some address => .ok (.ipv4 address)
        | none => .error .badIpv4
      else .ok (.name (String.ofList domain))

def parsePlain (cs : List Char) : Except UrlError Host :=
  if cs.head? = some '[' then bracketed cs
  else if cs.any fun c => "\x00\t\n\r #/:<>?@[\\]^|".toList.contains c then .error .badHostCharacter
  else .ok (.name (Percent.encodeText [] cs))

end DeviceRegistry.Host
