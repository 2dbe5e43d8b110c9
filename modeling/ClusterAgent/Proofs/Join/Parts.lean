import ClusterAgent.Join.Admission
import ClusterAgent.Proofs.Running
namespace ClusterAgent

open Running

namespace Join

open World

/-! ## The parts of a join -/

/-- What a join to the replicated store does once it has read the membership. -/
def admitAsSeen (surroundings : Surroundings) (patience : Patience) (request : Request)
    (remote : IpAddress) (snapshot : Membership.Snapshot) : Activity Error Admitted :=
  if snapshot.containsHost remote.toText then throw (.alreadyMember remote.toText)
  else if snapshot.isBootstrap then
    match surroundings.interfaces.bindAddress request.contacted with
    | .error cause => throw (.bindAddress cause)
    | .ok host => do
        ExceptT.adapt Error.ofMembership (Membership.moveBootstrap surroundings host)
        let moved ← awaitMove surroundings patience
        return ⟨some moved.voters, none⟩
  else return ⟨some snapshot.voters, none⟩

theorem admitToStore_eq (surroundings : Surroundings) (patience : Patience) (request : Request)
    (remote : IpAddress) :
    admitToStore surroundings patience request remote = (do
      holdMembership patience
      let snapshot ← ExceptT.adapt Error.ofMembership (onDisk Membership.read)
      admitAsSeen surroundings patience request remote snapshot) := by
  unfold admitToStore admitAsSeen
  refine congrArg (bind _) (funext fun _ => congrArg (bind _) (funext fun snapshot => ?_))
  dsimp only
  split <;> rfl

theorem run_awaitMove (surroundings : Surroundings) (patience : Patience) (world : World) :
    (awaitMove surroundings patience).run world =
      let waited := (ExceptT.adapt Error.ofMembership (Membership.waitUntil surroundings
        world.shutdownAt Membership.Snapshot.hasMoved)).run world
      match patience with
      | .until time _ =>
          if time < waited.2.clock then (.error .timeout, world.settle time) else waited
      | .endless => waited := by
  cases patience <;> rfl

/-- What a join does once the node is admitted. -/
def complete (surroundings : Surroundings) (protocol : Protocol) (request : Request)
    (remote : IpAddress) (override : Option String) (admitted : Admitted) :
    Activity Error Response := do
  let fresh ← surroundings.drawToken
  let callbackToken ← onTokens (Tokens.ownCallback fresh)
  let authority ← onState (Disk.readWhole Layout.authorityCertificate)
  let kubeletFlags ← onState (Disk.readWhole (Layout.flags "kubelet"))
  let disk := (← get).disk
  let apiPort := nonemptyOr "16443" (Flags.lookup "kube-apiserver" "--secure-port" disk)
  let authorizationMode :=
    nonemptyOr "AlwaysAllow" (Flags.lookup "kube-apiserver" "--authorization-mode" disk)
  tolerate (patchManifest surroundings remote.toText true)
  tolerate (onDisk NodeState.markNoReissue)
  let credentials ←
    if request.worker then workerCredentials surroundings request
    else memberCredentials protocol admitted
  return {
    authority := authority
    callbackToken := callbackToken
    apiPort := apiPort
    authorizationMode := authorizationMode
    kubeletFlags := kubeletFlags
    hostnameOverride := override
    credentials := credentials }

/-- What a join does once its token is accepted. -/
def grant (surroundings : Surroundings) (patience : Patience) (protocol : Protocol)
    (request : Request) : Activity Error Response := do
  let remote ← ExceptT.mk (pure (check protocol request (← get).disk))
  let override ←
    ExceptT.mk (pure (hostnameOverride surroundings.resolve request.hostname remote))
  let admitted ← admitBy surroundings patience protocol request remote
  complete surroundings protocol request remote override admitted

/-- A join spends the token first, and goes on only when it is accepted. -/
theorem join_eq (surroundings : Surroundings) (patience : Patience) (protocol : Protocol)
    (request : Request) :
    join surroundings patience protocol request = (do
      let world ← get
      let accepted ← onTokens (Tokens.consume .cluster request.token world.seconds)
      if accepted then grant surroundings patience protocol request
      else throw .invalidToken) := by
  unfold join
  refine congrArg (bind get) (funext fun world => ?_)
  refine congrArg (bind _) (funext fun accepted => ?_)
  cases accepted <;> rfl

/-- A join goes on with what the token left when it is accepted. -/
theorem join_of_accepted {surroundings : Surroundings} {patience : Patience} {protocol : Protocol}
    {request : Request} {before : World} {spent : Disk}
    (accepted : (Tokens.consume .cluster request.token before.seconds).run before.disk =
      (.ok true, spent)) :
    (join surroundings patience protocol request).run before =
      (grant surroundings patience protocol request).run { before with disk := spent } := by
  rw [join_eq, run_bind, run_get]
  dsimp only
  rw [run_bind, onTokens, run_adapt, World.run_onDisk, accepted]
  rfl

/-! ## The key pair of a store -/

/-- Where a node keeps the certificate with which members of its store meet each other. -/
def certificatePlace : Backend → Place
  | .replicatedStore => Layout.storeCertificate
  | .etcd => Layout.serverCertificate

/-- Where a node keeps the key to that certificate. -/
def keyPlace : Backend → Place
  | .replicatedStore => Layout.storeKey
  | .etcd => Layout.serverKey

theorem clusterKeyPair_eq (protocol : Protocol) :
    clusterKeyPair protocol = NodeState.readKeyPair (certificatePlace protocol.requiredBackend)
      (keyPlace protocol.requiredBackend) := by
  cases protocol <;> rfl

end Join
end ClusterAgent
