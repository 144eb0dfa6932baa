/-! Internet addresses and their texts. The text of a long address leaves out the first of its
longest runs of zero groups, if the run has two groups at least. -/
namespace DeviceRegistry

structure Ipv4 where
  (a b c d : UInt8)
deriving DecidableEq, Inhabited

def Ipv4.text (x : Ipv4) : String :=
  ".".intercalate ([x.a, x.b, x.c, x.d].map toString)

structure Ipv6 where
  groups : List UInt16
  length_groups : groups.length = 8
deriving DecidableEq

namespace Ipv6

def ofGroups? (groups : List UInt16) : Option Ipv6 :=
  if h : groups.length = 8 then some ⟨groups, h⟩ else none

/-- Two groups as the address that they embed. -/
def embedded (p q : UInt16) : Ipv4 :=
  ⟨(p >>> 8).toUInt8, p.toUInt8, (q >>> 8).toUInt8, q.toUInt8⟩

/-- The two groups of an embedded address. -/
def groupsOf (x : Ipv4) : List UInt16 :=
  [x.a.toUInt16 * 256 + x.b.toUInt16, x.c.toUInt16 * 256 + x.d.toUInt16]

def hex (g : UInt16) : String := String.ofList (Nat.toDigits 16 g.toNat)

def colons (groups : List UInt16) : String := ":".intercalate (groups.map hex)

/-- The number of zero groups at the front. -/
def zerosAt (groups : List UInt16) : Nat := (groups.takeWhile (· == 0)).length

/-- The start and the length of the first longest run of zero groups. -/
def longestZeros (groups : List UInt16) : Nat × Nat :=
  (List.range groups.length).foldl (fun best i =>
    let n := zerosAt (groups.drop i)
    if best.2 < n then (i, n) else best) (0, 0)

/-- Groups between colons, with the longest run of zeros left out. -/
def compressed (groups : List UInt16) : String :=
  let (start, length) := longestZeros groups
  if 2 ≤ length then
    colons (groups.take start) ++ "::" ++ colons (groups.drop (start + length))
  else colons groups

/-- The text, which writes an address that stands for a short one with the short one's text. -/
def text (x : Ipv6) : String :=
  match x.groups with
  | [0, 0, 0, 0, 0, 0xffff, p, q] => "::ffff:" ++ (embedded p q).text
  | groups => compressed groups

end Ipv6
end DeviceRegistry
