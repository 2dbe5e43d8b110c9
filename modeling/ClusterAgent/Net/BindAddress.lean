import ClusterAgent.Net.Cidr
import ClusterAgent.Net.HostPort
namespace ClusterAgent

/-! ## Bind address selection -/

/-- The local interface addresses in the order of their listing; absent when they cannot be
listed. -/
abbrev Interfaces := Option (List Cidr)

/-- No interface of this machine answers for the host. -/
structure BindAddressError where
  host : String
  deriving DecidableEq, Repr

def BindAddressError.message (error : BindAddressError) : String :=
  s!"address {error.host} not found in any host interface"

namespace Interfaces

/-- The later subnet replaces the earlier one only if it is narrower. -/
def narrower (best : Option Cidr) (cidr : Cidr) : Option Cidr :=
  match best with
  | none => some cidr
  | some earlier => if earlier.length < cidr.length then some cidr else some earlier

/-- The first of the narrowest subnets of a list. -/
def narrowest (cidrs : List Cidr) : Option Cidr :=
  cidrs.foldl narrower none

/-- The interface address that answers for `address`. An address on a subnet of its own
network comes first, then the address of the narrowest network around it, so that a virtual
address is answered by the physical one beside it; an address on a mask for one host comes
last. -/
def select (cidrs : List Cidr) (address : IpAddress) : Option IpAddress :=
  match cidrs.find? fun cidr => cidr.address == address && !cidr.isHostMask with
  | some exact => some exact.address
  | none =>
      match narrowest (cidrs.filter fun cidr => !cidr.isHostMask && cidr.contains address) with
      | some around => some around.address
      | none => (cidrs.find? fun cidr => cidr.address == address).map Cidr.address

/-- The bind address for the host that a peer contacted. When the interfaces cannot be
listed, it is that host. -/
def bindAddress (interfaces : Interfaces) (contacted : String) :
    Except BindAddressError String :=
  let host := (HostPort.split contacted).host
  match interfaces with
  | none => .ok host
  | some cidrs =>
      match (IpAddress.ofText? host).bind (select cidrs) with
      | some address => .ok address.toText
      | none => .error ⟨host⟩

end Interfaces
end ClusterAgent
