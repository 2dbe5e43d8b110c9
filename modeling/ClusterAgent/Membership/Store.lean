import ClusterAgent.Membership.Wait
import ClusterAgent.Node.Layout
import ClusterAgent.World
namespace ClusterAgent
namespace Membership

/-! ## The membership on disk -/

open World

/-- The members that the store has written down. -/
def read : Disk.Step MembershipError Snapshot := do
  let disk ← get
  let path := disk.shown Layout.membership
  let text ← ExceptT.adapt (MembershipError.io path) (Disk.readText Layout.membership)
  match Snapshot.ofText? text.toList with
  | some snapshot => return snapshot
  | none => throw (.parse path)

/-- The address that a store which no peer has joined has on another host. -/
def Snapshot.movedTo (snapshot : Snapshot) (host : String) : Except MembershipError String :=
  match snapshot.members with
  | [only] =>
      if !only.isLoopback then .error (.notBootstrap 1)
      else
        match (HostPort.split only.address).port with
        | none => .error (.invalidAddress only.address)
        | some port => .ok (HostPort.join host port)
  | members => .error (.notBootstrap members.length)

/-- Replaces the document that tells the store its new address. -/
def writeUpdate (address : String) : Disk.Step MembershipError Unit := do
  let disk ← get
  ExceptT.adapt (MembershipError.io (disk.shown Layout.addressUpdate))
    (Disk.writeAtomic Layout.addressUpdate (updateText address).toUTF8)

/-- Tells a store which no peer has joined to move to `host`, with the port that it has, and
restarts it. -/
def moveBootstrap (surroundings : Surroundings) (host : String) :
    Activity MembershipError Unit := do
  let snapshot ← onDisk read
  let address ← ExceptT.mk (pure (snapshot.movedTo host))
  onDisk (writeUpdate address)
  ExceptT.adapt MembershipError.restart
    (surroundings.restartService surroundings.storageService)

/-- What the membership file will hold, from now on. -/
def historyFrom (world : World) : Wait.History := fun elapsed =>
  (read.run (world.diskAt (world.clock + elapsed))).1

/-- The time from now on at which a time of the clock comes. -/
def timeUntil (world : World) (time : Nat) : Nat :=
  time - world.clock

/-- A wait that would begin now. -/
def waiting (surroundings : Surroundings) (cancelAt : Option Nat) (wanted : Snapshot → Bool)
    (world : World) : Wait.Result :=
  Wait.poll (historyFrom world) wanted surroundings.pollInterval surroundings.waitTimeout
    (cancelAt.map (timeUntil world))

/-- Waits until the membership is `wanted` or a time of the clock comes. -/
def waitUntil (surroundings : Surroundings) (cancelAt : Option Nat) (wanted : Snapshot → Bool) :
    Activity MembershipError Snapshot := fun world =>
  let result := waiting surroundings cancelAt wanted world
  (result.answer, world.settle (world.clock + result.elapsed))

end Membership
end ClusterAgent
