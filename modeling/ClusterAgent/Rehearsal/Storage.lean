import ClusterAgent.Membership.Store
import ClusterAgent.Json.Value
namespace ClusterAgent
namespace Rehearsal

/-! ## A storage service for rehearsals -/

/-- What a storage service does when it is restarted. -/
inductive Storage
  | fails (details : String)
  | ignores
  | writes (text : Option String) (delay : Nat)
  deriving DecidableEq, Repr

namespace Storage

open World

/-- The members that a store at an address writes down: itself, as a voter. -/
def loneMember (address : String) : String :=
  s!"- Address: {(Json.text address).toText}\n  ID: 3297041220608546238\n  Role: 0\n"

/-- What the store writes down after it was told its new address. -/
def adopted (disk : Disk) : Option String := do
  let content ← disk.content? Layout.addressUpdate.names
  let text ← (Utf8.decode content).toOption
  (Membership.updateAddress? text.toList).map loneMember

/-- A restarted store takes up the address that it was told, at once or later. -/
def restart (storage : Storage) (_service : String) : Activity RestartError Unit :=
  match storage with
  | .fails details => throw ⟨"systemctl", details⟩
  | .ignores => pure ()
  | .writes text delay =>
      modify fun world =>
        match text.or (adopted world.disk) with
        | none => world
        | some text =>
            let delivery : Delivery :=
              ⟨world.clock + delay, Layout.membership.names, text.toUTF8⟩
            World.settle { world with pending := world.pending ++ [delivery] } world.clock

end Storage

/-! ## A cluster for rehearsals -/

/-- The control plane nodes of a cluster, and the reasons for which it does not answer. -/
structure Cluster where
  nodes : List String
  listFailure : Option String
  applyFailure : Option String
  deriving DecidableEq, Repr

namespace Cluster

open World

def apply (cluster : Cluster) (_manifest : String) : Activity KubeError Unit :=
  match cluster.applyFailure with
  | some details => throw ⟨details⟩
  | none => pure ()

def listNodes (cluster : Cluster) : Activity KubeError (List String) :=
  match cluster.listFailure with
  | some details => throw ⟨details⟩
  | none => pure cluster.nodes

end Cluster

/-- A rehearsal on a node that can look up neither names nor interfaces. -/
def surroundings (storage : Storage) (cluster : Cluster) : Surroundings where
  interfaces := none
  resolve := fun _ => none
  restart := storage.restart
  apply := cluster.apply
  listNodes := cluster.listNodes
  token := fun drawn => s!"token-{drawn}"
  storageService := "storage"
  pollInterval := 5
  waitTimeout := 3000

/-- A rehearsal with a store that does not move, in a cluster of one node. -/
def quiet : Surroundings :=
  surroundings .ignores ⟨["10.0.0.1"], none, none⟩

end Rehearsal
end ClusterAgent
