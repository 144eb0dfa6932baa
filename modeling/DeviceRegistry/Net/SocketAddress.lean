import DeviceRegistry.Net.Address

/-! Addresses to listen at: an internet address and a port, read in their strict form. -/
namespace DeviceRegistry

inductive SocketAddress where
  | v4 (address : Ipv4) (port : UInt16)
  | v6 (address : Ipv6) (scope : UInt32) (port : UInt16)
deriving DecidableEq

namespace SocketAddress

def text : SocketAddress → String
  | v4 address port => address.text ++ ":" ++ toString port
  | v6 address scope port =>
    let shownScope := if scope = 0 then "" else "%" ++ toString scope
    "[" ++ address.text ++ shownScope ++ "]:" ++ toString port

/-- A reader that tells what is left, or fails without taking anything. -/
abbrev Scan := StateT (List Char) Option

def character (c : Char) : Scan Unit := fun cs =>
  match cs with
  | d :: rest => if d = c then some ((), rest) else none
  | [] => none

def digitValue? (c : Char) : Option Nat :=
  if c.isDigit then some (c.toNat - 0x30)
  else if 'a' ≤ c ∧ c ≤ 'f' then some (c.toNat - 0x57)
  else if 'A' ≤ c ∧ c ≤ 'F' then some (c.toNat - 0x37)
  else none

/-- The digits in front, for a radix of at most 16, as their values. -/
def digitsOf (radix : Nat) : List Char → List Nat
  | [] => []
  | c :: rest =>
    match digitValue? c with
    | some d => if d < radix then d :: digitsOf radix rest else []
    | none => []

/-- A number below `bound`, all of whose digits are taken. -/
def number (radix bound : Nat) (accept : List Nat → Bool) : Scan Nat := fun cs =>
  let ds := digitsOf radix cs
  let n := ds.foldl (fun n d => n * radix + d) 0
  if !ds.isEmpty && accept ds && n < bound then some (n, cs.drop ds.length) else none

/-- A decimal number of at most three digits, without a zero in front. -/
def octet : Scan UInt8 := do
  let n ← number 10 256 fun ds => ds.length ≤ 3 && (ds.length == 1 || ds.head? != some 0)
  return n.toUInt8

def ipv4 : Scan Ipv4 := do
  let a ← octet
  character '.'
  let b ← octet
  character '.'
  let c ← octet
  character '.'
  let d ← octet
  return ⟨a, b, c, d⟩

def separator (first : Bool) : Scan Unit := if first then pure () else character ':'

/-- As many groups as there are, at most `n`, and whether the last two embed a short address. -/
def groups : Nat → Bool → Scan (List UInt16 × Bool)
  | 0, _ => pure ([], false)
  | n + 1, first =>
    (do
      guard (0 < n)
      separator first
      let x ← ipv4
      return (Ipv6.groupsOf x, true)) <|>
    (do
      separator first
      let g ← number 16 65536 (·.length ≤ 4)
      let (rest, embedded) ← groups n false
      return (g.toUInt16 :: rest, embedded)) <|>
    pure ([], false)

/-- Eight groups, or fewer with a double colon for one or more zero groups. -/
def ipv6 : Scan Ipv6 := do
  let (head, embedded) ← groups 8 true
  if head.length = 8 then Ipv6.ofGroups? head
  else
    guard (!embedded)
    character ':'
    character ':'
    let (tail, _) ← groups (7 - head.length) true
    Ipv6.ofGroups? (head ++ List.replicate (8 - head.length - tail.length) 0 ++ tail)

def port : Scan UInt16 := do
  character ':'
  return (← number 10 65536 fun _ => true).toUInt16

def scope : Scan UInt32 := do
  character '%'
  return (← number 10 UInt32.size fun _ => true).toUInt32

def socket : Scan SocketAddress :=
  (do return .v4 (← ipv4) (← port)) <|>
  (do
    character '['
    let address ← ipv6
    let scope ← scope <|> pure 0
    character ']'
    return .v6 address scope (← port))

def parse? (s : String) : Option SocketAddress :=
  match socket s.toList with
  | some (address, []) => some address
  | _ => none

end SocketAddress
end DeviceRegistry
