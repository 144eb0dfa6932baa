import DeviceRegistry.Net.SocketAddress

/-! Where a machine can listen that has no addresses of its own: at the address that stands for all
addresses, at those of the machine itself, and at those of groups of machines. -/
namespace DeviceRegistry

inductive ListenError where
  | notAvailable | invalid | noDevice
deriving DecidableEq, Inhabited

def ListenError.message : ListenError → String
  | notAvailable => "Cannot assign requested address (os error 99)"
  | invalid => "Invalid argument (os error 22)"
  | noDevice => "No such device (os error 19)"

/-- A machine can listen there: at no address in particular, at its own, at a group's, or at that
of everybody. -/
def Ipv4.canListen (x : Ipv4) : Bool :=
  x == ⟨0, 0, 0, 0⟩ || x.a == 127 || (224 ≤ x.a && x.a < 240) || x == ⟨255, 255, 255, 255⟩

namespace Ipv6

/-- The address names a group of machines. -/
def isGroup (x : Ipv6) : Bool := x.groups.head?.any (0xff00 ≤ ·)

/-- The address has a meaning only on one link, which its scope tells. -/
def isLinkLocal (x : Ipv6) : Bool := x.groups.head?.any fun g => 0xfe80 ≤ g && g < 0xfec0

/-- The number of the link from a machine to itself. -/
def loopbackScope : UInt32 := 1

def listenError? (x : Ipv6) (scope : UInt32) : Option ListenError :=
  match x.groups with
  | [0, 0, 0, 0, 0, 0xffff, p, q] =>
    if (embedded p q).canListen then none else some .notAvailable
  | groups =>
    if x.isGroup then some .invalid
    else if x.isLinkLocal then
      if scope = 0 then some .invalid
      else if scope = loopbackScope then some .notAvailable
      else some .noDevice
    else if groups.take 7 = List.replicate 7 0 ∧ groups.all (· ≤ 1) then none
    else some .notAvailable

end Ipv6

/-- Why a machine cannot listen at an address, if it cannot. -/
def SocketAddress.listenError? : SocketAddress → Option ListenError
  | v4 address _ => if address.canListen then none else some .notAvailable
  | v6 address scope _ => address.listenError? scope

end DeviceRegistry
