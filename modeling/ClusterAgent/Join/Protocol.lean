import ClusterAgent.Node.State
namespace ClusterAgent
namespace Join

/-! ## Ways to join -/

/-- A way to join a cluster: a single node or an older etcd cluster, a cluster on the
replicated store, or a highly available etcd cluster. -/
inductive Protocol
  | legacy
  | replicatedStore
  | etcdHa
  deriving DecidableEq, Repr

def Protocol.name : Protocol → String
  | .legacy => "legacy"
  | .replicatedStore => "replicated-store"
  | .etcdHa => "etcd-ha"

/-- The store that a node must run to accept a join. -/
def Protocol.requiredBackend : Protocol → Backend
  | .legacy => .etcd
  | .replicatedStore => .replicatedStore
  | .etcdHa => .etcd

/-- The path of the HTTP request for a join. -/
def Protocol.path : Protocol → String
  | .legacy => "/cluster/api/v1.0/join"
  | .replicatedStore => "/cluster/api/v2.0/join"
  | .etcdHa => "/cluster/api/v2.0/etcd/join"

end Join
end ClusterAgent
