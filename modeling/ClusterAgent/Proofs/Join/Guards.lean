import ClusterAgent.Proofs.Join.Admitted
namespace ClusterAgent
namespace Join

open Running World

/-! ## The guards of a join -/

/-- The port on which the flags of the agent tell it to listen, if there is one that can be
read. -/
def announcedPort? (disk : Disk) : Option Nat :=
  (HostPort.split (Flags.lookup "cluster-agent" "--bind" disk)).port.bind fun port =>
    (Text.readUnsigned 10 UInt16.size port.toList).toOption

theorem agentPort_eq (disk : Disk) : agentPort disk = (announcedPort? disk).getD 25000 := by
  rw [agentPort, announcedPort?]
  rcases (HostPort.split (Flags.lookup "cluster-agent" "--bind" disk)).port with _ | port
  · rfl
  · rfl

/-- What holds when a node that calls from `remote` is admitted: of the node's state before the
join, of the surroundings, and of the response. -/
structure GuardsHold (surroundings : Surroundings) (protocol : Protocol) (request : Request)
    (before after : World) (response : Response) (remote : IpAddress) : Prop where
  spent : ∃ disk,
    (Tokens.consume .cluster request.token before.seconds).run before.disk = (.ok true, disk) ∧
      Tokens.SpentFrom request.token before.seconds (Tokens.entriesIn .cluster before.disk)
        (Tokens.entriesIn .cluster disk)
  staysSpent : surroundings.LeaveAlone Layout.clusterTokens.names →
    NoneDue Layout.clusterTokens.names before →
      Tokens.SpentFrom request.token before.seconds (Tokens.entriesIn .cluster before.disk)
        (Tokens.entriesIn .cluster after.disk)
  backend : NodeState.backend before.disk = protocol.requiredBackend
  port : request.port = (announcedPort? before.disk).getD 25000
  caller : IpAddress.ofText? request.remote = some remote
  notContacted : IpAddress.ofText? (HostPort.split request.contacted).host ≠ some remote
  hostname :
    (request.hostname ≠ "" ∧
        (∃ addresses, surroundings.resolve request.hostname = some addresses ∧
          remote ∈ addresses) ∧
        response.hostnameOverride = none) ∨
      ((request.hostname = "" ∨ surroundings.resolve request.hostname = none ∨
          surroundings.resolve request.hostname = some []) ∧
        response.hostnameOverride = some remote.toText)
  notMember : protocol = .replicatedStore →
    ∃ snapshot, Membership.membersOn before.disk = .ok snapshot ∧
      ∀ member ∈ snapshot.members, member.host ≠ remote.toText
  notEndpoint : protocol = .etcdHa →
    remote.toText ∉ Endpoints.hosts (etcdServers before.disk)
  worker : request.worker = true → ∃ nodes, response.credentials = .worker nodes
  member : request.worker = false →
    ∃ credentials, response.credentials = .member credentials ∧
      after.disk.textOf (certificatePlace (NodeState.backend before.disk)) =
          .ok credentials.clusterCertificate ∧
        after.disk.textOf (keyPlace (NodeState.backend before.disk)) =
          .ok credentials.clusterKey

section Guards

variable {surroundings : Surroundings} {patience : Patience} {protocol : Protocol}
  {request : Request} {before after : World} {response : Response}

/-- What the checks of a join read is away from the lists of tokens. -/
theorem check_elsewhere {disk : Disk}
    (changes : Disk.ChangesOnly (Tokens.footprint .cluster) before.disk disk)
    (protocol : Protocol) (request : Request) :
    check protocol request disk = check protocol request before.disk := by
  have backend : NodeState.backend disk = NodeState.backend before.disk :=
    NodeState.backend_elsewhere changes (by decide)
  have port : agentPort disk = agentPort before.disk := by
    rw [agentPort, agentPort, Flags.lookup_elsewhere changes _ _ (by decide)]
  rw [check, check, backend, port]

theorem check_of_spent {disk : Disk} {remote : IpAddress}
    (changes : Disk.ChangesOnly (Tokens.footprint .cluster) before.disk disk)
    (passed : check protocol request disk = .ok remote) :
    check protocol request before.disk = .ok remote := by
  rwa [check_elsewhere changes] at passed

/-- No node is admitted unless every guard holds. -/
theorem admitted_past_guards
    (ran : (join surroundings patience protocol request).run before = (.ok response, after)) :
    ∃ remote, GuardsHold surroundings protocol request before after response remote := by
  obtain ⟨disk, consumed, granted⟩ := join_ok ran
  have changes : Disk.ChangesOnly (Tokens.footprint .cluster) before.disk disk :=
    Tokens.consume_within.reaches consumed
  have spent : Tokens.SpentFrom request.token before.seconds
      (Tokens.entriesIn .cluster before.disk) (Tokens.entriesIn .cluster disk) := by
    rcases Tokens.consume_ok consumed with ⟨impossible, _⟩ | ⟨_, spent, _⟩
    · cases impossible
    · exact spent
  obtain ⟨remote, override, admitted, middle, passed, named, admission, completed⟩ :=
    grant_ok granted
  obtain ⟨backend, port, caller⟩ := check_ok (check_of_spent changes passed)
  obtain ⟨reads, notContacted⟩ := remoteAddress_ok caller
  obtain ⟨sameOverride, credentials⟩ := complete_ok completed
  refine ⟨remote, ⟨disk, consumed, spent⟩, fun leave noneDue => ?_, backend,
    port.trans (agentPort_eq _), reads, notContacted, ?_, ?_, ?_, ?_, ?_⟩
  -- After the token is spent no part of the join writes the list of tokens again.
  · have spares : Spares Layout.clusterTokens.names { before with disk := disk } after :=
      (grant_spares leave (by decide) (by decide) patience protocol request).reaches granted
    have kept : Tokens.entriesIn .cluster after.disk = Tokens.entriesIn .cluster disk :=
      congrArg (List.map Tokens.Entry.ofLine) (Tokens.linesAt_congr (spares noneDue).file)
    rw [kept]
    exact spent
  · rw [sameOverride]
    exact hostnameOverride_ok named
  · rintro rfl
    obtain ⟨snapshot, listed, notListed, _⟩ := admitToStore_ok admission
    rw [Membership.membersOn_elsewhere changes (by decide)] at listed
    exact ⟨snapshot, listed, notListed⟩
  · rintro rfl
    have notEndpoint := admitToEtcd_ok admission
    rwa [etcdServers, Flags.lookup_elsewhere changes _ _ (by decide)] at notEndpoint
  · intro worker
    rcases credentials with ⟨_, given⟩ | ⟨notWorker, _⟩
    · exact given
    · rw [worker] at notWorker
      cases notWorker
  · intro notWorker
    rcases credentials with ⟨worker, _⟩ | ⟨_, member, given, receives⟩
    · rw [notWorker] at worker
      cases worker
    · rw [backend]
      exact ⟨member, given, receives.certificate, receives.key⟩

end Guards

/-! ## A member that joins -/

/-- A node on the replicated store, which lists its members in this text. -/
def storeNode (listing : String) : World where
  disk :=
    { Disk.empty "/data" with
      entries :=
        [(["credentials"], .directory),
          (["credentials", "cluster-tokens.txt"], .file "other\nabc|9\n".toUTF8 false),
          (["credentials", "known_tokens.csv"], .file "root,admin,admin\n".toUTF8 true),
          (["certs"], .directory), (["certs", "ca.crt"], .file "CA CERT".toUTF8 false),
          (["certs", "ca.key"], .file "CA KEY".toUTF8 true),
          (["certs", "serviceaccount.key"], .file "SA KEY".toUTF8 true),
          (["args"], .directory), (["args", "kubelet"], .file "--v=2\n".toUTF8 false),
          (["args", "cluster-agent"], .file "--bind=0.0.0.0:25001\n".toUTF8 false),
          (["var"], .directory), (["var", "lock"], .directory),
          (["var", "lock", "ha-cluster"], .file .empty false),
          (["var", "kubernetes"], .directory), (["var", "kubernetes", "backend"], .directory),
          (["var", "kubernetes", "backend", "cluster.crt"], .file "CERT".toUTF8 false),
          (["var", "kubernetes", "backend", "cluster.key"], .file "KEY".toUTF8 true)] }.put
      Layout.membership.names (.file listing.toUTF8 false)
  clock := 1000
  pending := []
  calls := []
  drawn := 0
  shutdownAt := none

/-- A node that would be a member calls from one address and has called another. -/
def memberCalling (contacted remote : String) : Request where
  token := "abc"
  hostname := ""
  port := 25001
  worker := false
  callbackToken := none
  contacted := contacted
  remote := remote

/-- What such a node is given, together with these voters. -/
def memberResponse (override : String) (voters : List String) : Response where
  authority := "CA CERT"
  callbackToken := "token-0"
  apiPort := "16443"
  authorizationMode := "AlwaysAllow"
  kubeletFlags := "--v=2\n"
  hostnameOverride := some override
  credentials := .member
    { voters := some voters
      serviceAccountKey := "SA KEY"
      adminToken := "root"
      authorityKey := "CA KEY"
      clusterCertificate := "CERT"
      clusterKey := "KEY"
      etcdServers := none }

def movedStore : World :=
  storeNode "- Address: 10.0.0.1:19001\n  ID: 1\n  Role: 0\n"

theorem movedStore_admits :
    (join Rehearsal.quiet .endless .replicatedStore
        (memberCalling "10.0.0.1:25001" "10.0.0.2")).run movedStore =
      (.ok (memberResponse "10.0.0.2" ["10.0.0.1:19001"]),
        ((join Rehearsal.quiet .endless .replicatedStore
          (memberCalling "10.0.0.1:25001" "10.0.0.2")).run movedStore).2) :=
  run_of_toOption (by decide +kernel)

theorem movedStore_guards_hold :
    ∃ remote, GuardsHold Rehearsal.quiet .replicatedStore
      (memberCalling "10.0.0.1:25001" "10.0.0.2") movedStore
      ((join Rehearsal.quiet .endless .replicatedStore
        (memberCalling "10.0.0.1:25001" "10.0.0.2")).run movedStore).2
      (memberResponse "10.0.0.2" ["10.0.0.1:19001"]) remote :=
  admitted_past_guards movedStore_admits

end Join
end ClusterAgent
