import ClusterAgent.Join.Error
import ClusterAgent.Join.Request
import ClusterAgent.Join.Response
import ClusterAgent.Membership.Store
import ClusterAgent.Net.Endpoints
import ClusterAgent.Node.Autodetection
import ClusterAgent.Node.Flags
namespace ClusterAgent
namespace Join

open World

/-! ## Parts of an admission -/

/-- How long a join may take: as long as it needs, or until the clock shows a time. Somebody
else may hold the membership until then. -/
inductive Patience
  | endless
  | until (time : Nat) (membershipIsHeld : Bool)
  deriving DecidableEq, Repr

/-- An operation on token files. -/
def onTokens {α : Type} (step : Disk.Step TokenError α) : Activity Error α :=
  ExceptT.adapt Error.token (onDisk step)

/-- A read of the node's state. -/
def onState {α : Type} (step : Disk.Step FileError α) : Activity Error α :=
  ExceptT.adapt (fun cause => Error.state cause.report) (onDisk step)

/-- The port of agents when no other is set. -/
def defaultAgentPort : Nat := 25000

/-- The port on which agents of this cluster listen. -/
def agentPort (disk : Disk) : Nat :=
  let address := Flags.lookup "cluster-agent" "--bind" disk
  match (HostPort.split address).port with
  | none => defaultAgentPort
  | some port => ((Text.readUnsigned 10 UInt16.size port.toList).toOption).getD defaultAgentPort

def nonemptyOr (fallback text : String) : String :=
  if text.isEmpty then fallback else text

/-- The name under which the node is to run: none when its hostname leads to its address, and
its address when the hostname leads nowhere. -/
def hostnameOverride (resolve : String → Option (List IpAddress)) (hostname : String)
    (remote : IpAddress) : Except Error (Option String) :=
  if hostname.isEmpty then .ok (some remote.toText)
  else
    match resolve hostname with
    | none => .ok (some remote.toText)
    | some [] => .ok (some remote.toText)
    | some addresses =>
        if remote ∈ addresses then .ok none else .error (.hostnameMismatch hostname remote)

/-- The joining node's own address, which must not be the one that it called. -/
def remoteAddress (request : Request) : Except Error IpAddress :=
  match IpAddress.ofText? request.remote with
  | none => .error (.invalidRequest s!"invalid remote address: {request.remote}")
  | some remote =>
      if IpAddress.ofText? (HostPort.split request.contacted).host = some remote then
        .error (.selfJoin remote.toText)
      else .ok remote

/-- What the protocol adds to the response. -/
structure Admitted where
  voters : Option (List String)
  etcdServers : Option String
  deriving DecidableEq, Repr

/-- Waits for the hold on the membership. -/
def holdMembership : Patience → Activity Error Unit
  | .until time true => do
      modify fun world => world.settle time
      throw .timeout
  | _ => pure ()

/-- Waits until the store has moved off loopback, unless the join is told to stop or runs out
of time. -/
def awaitMove (surroundings : Surroundings) (patience : Patience) :
    Activity Error Membership.Snapshot := fun world =>
  let wait := Membership.waitUntil surroundings world.shutdownAt Membership.Snapshot.hasMoved
  let (answer, after) := (ExceptT.adapt Error.ofMembership wait).run world
  match patience with
  | .until time _ =>
      if time < after.clock then (.error .timeout, world.settle time) else (answer, after)
  | .endless => (answer, after)

/-- Admits a node to the replicated store. The first node to join moves the store off
loopback, to the address under which it called this node. -/
def admitToStore (surroundings : Surroundings) (patience : Patience) (request : Request)
    (remote : IpAddress) : Activity Error Admitted := do
  holdMembership patience
  let snapshot ← ExceptT.adapt Error.ofMembership (onDisk Membership.read)
  if snapshot.containsHost remote.toText then throw (.alreadyMember remote.toText)
  if snapshot.isBootstrap then
    match surroundings.interfaces.bindAddress request.contacted with
    | .error cause => throw (.bindAddress cause)
    | .ok host =>
        ExceptT.adapt Error.ofMembership (Membership.moveBootstrap surroundings host)
        let moved ← awaitMove surroundings patience
        return ⟨some moved.voters, none⟩
  else return ⟨some snapshot.voters, none⟩

/-- The etcd endpoints that the API server uses. -/
def etcdServers (disk : Disk) : String :=
  Flags.lookup "kube-apiserver" "--etcd-servers" disk

def nonempty? (text : String) : Option String :=
  if text.isEmpty then none else some text

/-- Admits a node to an etcd cluster of which it is no member yet. -/
def admitToEtcd (patience : Patience) (remote : IpAddress) : Activity Error Admitted := do
  holdMembership patience
  let servers := etcdServers (← get).disk
  if remote.toText ∈ Endpoints.hosts servers then throw (.alreadyMember remote.toText)
  return ⟨none, nonempty? servers⟩

/-- Admits a node the oldest way, in which it hands over its own callback token. -/
def admitLegacy (request : Request) (remote : IpAddress) : Activity Error Admitted := do
  match request.callbackToken.bind nonempty? with
  | none => pure ()
  | some token =>
      onTokens (Tokens.storeCallback (HostPort.join remote.toText (toString request.port)) token)
  return ⟨none, nonempty? (etcdServers (← get).disk)⟩

/-- Admits a node by the rules of a protocol. -/
def admitBy (surroundings : Surroundings) (patience : Patience) (protocol : Protocol)
    (request : Request) (remote : IpAddress) : Activity Error Admitted :=
  match protocol with
  | .replicatedStore => admitToStore surroundings patience request remote
  | .etcdHa => admitToEtcd patience remote
  | .legacy => admitLegacy request remote

/-- Patches the network manifest and, where `apply` holds, hands a changed one to the
cluster, which may fail; whether it changed. -/
def patchManifest (surroundings : Surroundings) (host : String) (apply : Bool) :
    Activity FileError Bool := do
  let changed ← onDisk (Autodetection.patchFile host)
  if changed && apply then
    tolerate (surroundings.applyManifest ((← get).disk.shown Layout.networkManifest))
  return changed

/-- A worker gets tokens for its certificates and the nodes of the control plane. -/
def workerCredentials (surroundings : Surroundings) (request : Request) :
    Activity Error Credentials := do
  let _ ← onTokens (Tokens.issueForWorker request.token)
  let nodes ← ExceptT.adapt Error.controlPlaneNodes surroundings.controlPlaneNodes
  return .worker nodes

/-- The key pair that members joining by a protocol receive. -/
def clusterKeyPair : Protocol → Disk.Step FileError KeyPair
  | .replicatedStore => NodeState.storeKeyPair
  | _ => NodeState.serverKeyPair

/-- A new member of the control plane gets its keys. -/
def memberCredentials (protocol : Protocol) (admitted : Admitted) : Activity Error Credentials := do
  let pair ← onState (clusterKeyPair protocol)
  let serviceAccountKey ← onState (Disk.readWhole Layout.serviceAccountKey)
  let adminToken ←
    ExceptT.adapt (fun cause => Error.state cause.report) (onDisk NodeState.adminToken)
  let authorityKey ← onState (Disk.readWhole Layout.authorityKey)
  return .member
    { voters := admitted.voters
      serviceAccountKey := serviceAccountKey
      adminToken := adminToken
      authorityKey := authorityKey
      clusterCertificate := pair.certificate
      clusterKey := pair.key
      etcdServers := admitted.etcdServers }

/-! ## Admission -/

/-- The checks that need nothing but the data directory and the request, and the joining
node's address. -/
def check (protocol : Protocol) (request : Request) (disk : Disk) : Except Error IpAddress := do
  let backend := NodeState.backend disk
  if backend ≠ protocol.requiredBackend then throw (.backendMismatch protocol backend)
  let expected := agentPort disk
  if expected ≠ request.port then throw (.portMismatch expected request.port)
  remoteAddress request

/-- Admits a node, or refuses it at the first check that fails. Nothing done before a refusal
is undone; in particular the cluster token stays spent. -/
def join (surroundings : Surroundings) (patience : Patience) (protocol : Protocol)
    (request : Request) : Activity Error Response := do
  let accepted ← onTokens (Tokens.consume .cluster request.token (← get).seconds)
  if !accepted then throw .invalidToken
  let remote ← ExceptT.mk (pure (check protocol request (← get).disk))
  let override ←
    ExceptT.mk (pure (hostnameOverride surroundings.resolve request.hostname remote))
  let admitted ← admitBy surroundings patience protocol request remote
  let fresh ← surroundings.drawToken
  let callbackToken ← onTokens (Tokens.ownCallback fresh)
  let authority ← onState (Disk.readWhole Layout.authorityCertificate)
  let kubeletFlags ← onState (Disk.readWhole (Layout.flags "kubelet"))
  let disk := (← get).disk
  let apiPort := nonemptyOr "16443" (Flags.lookup "kube-apiserver" "--secure-port" disk)
  let authorizationMode :=
    nonemptyOr "AlwaysAllow" (Flags.lookup "kube-apiserver" "--authorization-mode" disk)
  tolerate (patchManifest surroundings remote.toText true)
  tolerate (onDisk NodeState.markNoReissue)
  let credentials ←
    if request.worker then workerCredentials surroundings request
    else memberCredentials protocol admitted
  return {
    authority := authority
    callbackToken := callbackToken
    apiPort := apiPort
    authorizationMode := authorizationMode
    kubeletFlags := kubeletFlags
    hostnameOverride := override
    credentials := credentials }

end Join
end ClusterAgent
