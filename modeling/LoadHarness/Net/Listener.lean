import LoadHarness.Net.Address

/-!
# Listeners

Where a server without privileges can listen on a machine that has only its own loopback
addresses: low ports are reserved, and foreign addresses cannot be taken.
-/

namespace LoadHarness

namespace Ipv4

/-- Whether the address is the machine itself or stands for all its addresses. -/
def isLocal (a : Ipv4) : Bool := a.value == 0 || a.value / 16777216 == 127

end Ipv4

namespace Ipv6

def isLocal (a : Ipv6) : Bool :=
  a.groups == [0, 0, 0, 0, 0, 0, 0, 0] || a.groups == [0, 0, 0, 0, 0, 0, 0, 1]

end Ipv6

namespace SocketAddress

def port : SocketAddress → Nat
  | v4 _ port => port
  | v6 _ _ port => port

def isLocal : SocketAddress → Bool
  | v4 address _ => address.isLocal
  | v6 address _ _ => address.isLocal

/-- Why a server cannot listen at an address. -/
inductive Refusal where
  | reservedPort
  | foreignAddress

def Refusal.message : Refusal → String
  | reservedPort => "Permission denied (os error 13)"
  | foreignAddress => "Cannot assign requested address (os error 99)"

/-- The first port that needs no privileges; port zero stands for any free one. -/
def firstFreePort : Nat := 1024

def refusal? (a : SocketAddress) : Option Refusal :=
  if a.port ≠ 0 ∧ a.port < firstFreePort then some .reservedPort
  else if !a.isLocal then some .foreignAddress
  else none

/-- What is told of a server that cannot listen. -/
def bindMessage (a : SocketAddress) : String := "failed to bind metrics listener " ++ a.toText

end SocketAddress

end LoadHarness
