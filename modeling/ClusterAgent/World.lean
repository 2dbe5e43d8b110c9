import ClusterAgent.Files.Step
import ClusterAgent.Net.BindAddress
import ClusterAgent.Services.Error
namespace ClusterAgent

/-! ## The world around an agent -/

/-- A use of something outside the data directory. -/
inductive Call
  | restart (service : String)
  | apply (manifest : String)
  | listNodes
  | program (words : List String)
  deriving DecidableEq, Repr

/-- A file that another process will write. -/
structure Delivery where
  due : Nat
  names : List String
  content : ByteArray

/-- What an agent changes and what changes around it. `clock` counts milliseconds, `pending`
are the writes of other processes to come, `calls` are those made so far, `drawn` counts the
random tokens used, and `shutdownAt` is the time at which the agent is told to stop. -/
structure World where
  disk : Disk
  clock : Nat
  pending : List Delivery
  calls : List Call
  drawn : Nat
  shutdownAt : Option Nat

namespace World

def seconds (world : World) : Int := (world.clock / 1000 : Nat)

/-- Another process writes a file. -/
def deliver (disk : Disk) (delivery : Delivery) : Disk :=
  (disk.put delivery.names (.file delivery.content false)).note delivery.names

/-- The data directory at a time that has not passed. -/
def diskAt (world : World) (time : Nat) : Disk :=
  (world.pending.filter fun delivery => delivery.due ≤ time).foldl deliver world.disk

/-- The world once the clock shows `time`. -/
def settle (world : World) (time : Nat) : World :=
  { world with
    disk := world.diskAt time
    clock := time
    pending := world.pending.filter fun delivery => !(delivery.due ≤ time) }

/-! ## Activities -/

/-- Something that an agent does, which may fail; a failure keeps the changes made before
it. -/
abbrev Activity (ε α : Type) := ExceptT ε (StateM World) α

/-- An operation on the data directory. -/
def onDisk {ε α : Type} (step : Disk.Step ε α) : Activity ε α := fun world =>
  let (result, disk) := step.run world.disk
  (result, { world with disk := disk })

/-- An action of which a failure does not matter. -/
def tolerate {ε δ α : Type} (action : Activity ε α) : Activity δ Unit := fun world =>
  (.ok (), (action.run world).2)

def call {ε : Type} (call : Call) : Activity ε Unit :=
  modify fun world => { world with calls := world.calls ++ [call] }

end World

/-! ## Collaborators -/

/-- What an agent meets outside its data directory. A host that cannot be looked up has no
addresses at all, `token` gives the random tokens in the order of their use, and the times are
in milliseconds. -/
structure Surroundings where
  interfaces : Interfaces
  resolve : String → Option (List IpAddress)
  restart : String → World.Activity RestartError Unit
  apply : String → World.Activity KubeError Unit
  listNodes : World.Activity KubeError (List String)
  token : Nat → String
  storageService : String
  pollInterval : Nat
  waitTimeout : Nat

namespace Surroundings

open World

def restartService (surroundings : Surroundings) (service : String) :
    Activity RestartError Unit := do
  call (.restart service)
  surroundings.restart service

def applyManifest (surroundings : Surroundings) (manifest : String) : Activity KubeError Unit := do
  call (.apply manifest)
  surroundings.apply manifest

def controlPlaneNodes (surroundings : Surroundings) : Activity KubeError (List String) := do
  call .listNodes
  surroundings.listNodes

/-- A random token that was not drawn before. -/
def drawToken {ε : Type} (surroundings : Surroundings) : Activity ε String := do
  let world ← get
  set { world with drawn := world.drawn + 1 }
  return surroundings.token world.drawn

end Surroundings
end ClusterAgent
