import ClusterAgent.Net.HostPort
import ClusterAgent.Net.Ip.Parser
import ClusterAgent.Yaml.Record
import ClusterAgent.Yaml.Writing
namespace ClusterAgent
namespace Membership

/-! ## Members -/

/-- The part of a member in the replicated store. -/
inductive Role
  | voter
  | standBy
  | spare
  deriving DecidableEq, Repr

def Role.ofNumber? : Nat → Option Role
  | 0 => some .voter
  | 1 => some .standBy
  | 2 => some .spare
  | _ => none

def Role.toNumber : Role → Nat
  | .voter => 0
  | .standBy => 1
  | .spare => 2

def Role.name : Role → String
  | .voter => "Voter"
  | .standBy => "StandBy"
  | .spare => "Spare"

/-- What is said of a number that is no role. -/
def Role.unknown (number : Nat) : String :=
  s!"unknown node role {number}"

structure Member where
  address : String
  id : Nat
  role : Role
  deriving DecidableEq, Repr

namespace Member

def host (member : Member) : String :=
  (HostPort.split member.address).host

/-- Whether the member can be reached from its own machine only. -/
def isLoopback (member : Member) : Bool :=
  (IpAddress.ofText? member.host).any IpAddress.isLoopback

end Member

/-! ## Snapshots -/

/-- The members of the store as read in one go. -/
structure Snapshot where
  members : List Member
  deriving DecidableEq, Repr

namespace Snapshot

/-- A single member on loopback: no peer has ever joined. -/
def isBootstrap (snapshot : Snapshot) : Bool :=
  match snapshot.members with
  | [only] => only.isLoopback
  | _ => false

/-- Whether the first member has moved off loopback. -/
def hasMoved (snapshot : Snapshot) : Bool :=
  match snapshot.members with
  | first :: _ => !first.isLoopback
  | [] => false

def containsHost (snapshot : Snapshot) (host : String) : Bool :=
  snapshot.members.any fun member => member.host == host

/-- The addresses of the voters, in order. -/
def voters (snapshot : Snapshot) : List String :=
  (snapshot.members.filter fun member => member.role == .voter).map Member.address

end Snapshot

/-! ## Snapshots as text -/

open Yaml

def Member.ofNode? (document node : Node) : Option Member := do
  let members ← node.members? document
  let address ← (← only? "Address" members).text? document
  let id ← (← only? "ID" members).natural? UInt64.size document
  let role ← (← only? "Role" members).natural? UInt64.size document
  return ⟨address, id, ← Role.ofNumber? role⟩

/-- The members that a document lists. A blank text has none. -/
def Snapshot.ofText? (text : List Char) : Option Snapshot :=
  if (Text.trim text).isEmpty then some ⟨[]⟩
  else do
    let document ← Node.ofText? text
    let items ← document.items? document
    let members ← items.mapM (Member.ofNode? document)
    return ⟨members⟩

/-- The document that tells the store its new address. -/
def updateText (address : String) : String :=
  "Address: " ++ String.ofList (writeScalar address.toList) ++ "\n"

/-- The address in a document that tells the store its new address. -/
def updateAddress? (text : List Char) : Option String := do
  let document ← Node.ofText? text
  let members ← document.members? document
  (← only? "Address" members).text? document

end Membership
end ClusterAgent
