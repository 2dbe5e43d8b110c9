import ClusterAgent.Proofs.Join.Bodies
import ClusterAgent.Proofs.Join.Refusals
import ClusterAgent.Proofs.Net.Ip.Reading
namespace ClusterAgent
namespace Join

open Running World

/-! ## Nodes that called themselves -/

section Checking

variable {surroundings : Surroundings} {patience : Patience} {protocol : Protocol}
  {request : Request} {before : World} {spent : Disk} {remote : IpAddress}

theorem check_of_self {disk : Disk} (backend : NodeState.backend disk = protocol.requiredBackend)
    (port : request.port = agentPort disk) (reads : IpAddress.ofText? request.remote = some remote)
    (same : IpAddress.ofText? (HostPort.split request.contacted).host = some remote) :
    check protocol request disk = .error (.selfJoin remote.toText) := by
  have found : remoteAddress request = .error (.selfJoin remote.toText) := by
    rw [remoteAddress, reads]
    exact if_pos same
  unfold check
  dsimp only
  rw [if_neg (not_not_intro backend), if_neg (not_not_intro port.symm), found]

theorem check_not_self {disk : Disk} (reads : IpAddress.ofText? request.remote = some remote)
    (different : IpAddress.ofText? (HostPort.split request.contacted).host ≠ some remote)
    (address : String) : check protocol request disk ≠ .error (.selfJoin address) := by
  intro failed
  unfold check at failed
  dsimp only at failed
  split at failed
  · cases failed
  · split at failed
    · cases failed
    · rw [remoteAddress, reads] at failed
      dsimp only at failed
      rw [if_neg different] at failed
      cases failed

/-- With an accepted token, on the right store and port, a node that has called its own address is
refused at once. -/
theorem join_of_self
    (accepted : (Tokens.consume .cluster request.token before.seconds).run before.disk =
      (.ok true, spent))
    (backend : NodeState.backend before.disk = protocol.requiredBackend)
    (port : request.port = agentPort before.disk)
    (reads : IpAddress.ofText? request.remote = some remote)
    (same : IpAddress.ofText? (HostPort.split request.contacted).host = some remote) :
    (join surroundings patience protocol request).run before =
      (.error (.selfJoin remote.toText), { before with disk := spent }) := by
  have checked := check_elsewhere (Tokens.consume_within.reaches accepted) protocol request
  rw [check_of_self backend port reads same] at checked
  rw [join_of_accepted accepted, grant, run_bind, run_get]
  dsimp only
  rw [checked]
  rfl

/-- No other node is refused as one that has called itself. -/
theorem join_not_self
    (accepted : (Tokens.consume .cluster request.token before.seconds).run before.disk =
      (.ok true, spent))
    (reads : IpAddress.ofText? request.remote = some remote)
    (different : IpAddress.ofText? (HostPort.split request.contacted).host ≠ some remote)
    (address : String) (after : World) :
    (join surroundings patience protocol request).run before ≠
      (.error (.selfJoin address), after) := by
  rw [join_of_accepted accepted]
  intro ran
  rcases bind_error ran with failed | ⟨_, _, fetched, ran⟩
  · cases failed
  cases fetched
  rcases bind_error ran with failed | ⟨caller, _, _, ran⟩
  · exact check_not_self reads different address (Prod.mk.inj failed).1
  · exact admission_avoids surroundings patience protocol request caller _ _ after ran trivial

end Checking

/-! ## Responses to nodes that called themselves -/

/-- The request is one to join, and its token, the store and the port pass their checks. -/
structure PassesFirst (protocol : Protocol) (http : Http.Request) (world : World)
    (joining : Request) (spent : Disk) : Prop where
  route : Http.protocolAt? http.route = some protocol
  posted : http.method = "POST"
  asked : Http.joinRequest http = .ok joining
  accepted : (Tokens.consume .cluster joining.token world.seconds).run world.disk =
    (.ok true, spent)
  backend : NodeState.backend world.disk = protocol.requiredBackend
  port : joining.port = agentPort world.disk

/-- The response refuses a node that called itself. -/
def RefusesSelf (response : Http.Response) : Prop :=
  ∃ address, response = Http.joinFailure (.selfJoin address)

theorem error_of_refusesSelf {error : Error} (refuses : RefusesSelf (Http.joinFailure error)) :
    ∃ address, error = .selfJoin address := by
  obtain ⟨address, same⟩ := refuses
  have sameCode : error.code = "self_join" := by
    simp only [Http.joinFailure, Http.Response.failure, Http.Response.json, Http.Response.mk.injEq,
      Option.some.injEq, Json.object.injEq, List.cons.injEq, Prod.mk.injEq, Json.text.injEq,
      true_and, and_true] at same
    exact same.2.2
  cases error with
  | selfJoin address => exact ⟨address, rfl⟩
  | _ => simp [Error.code] at sameCode

section Responding

variable {surroundings : Surroundings} {limits : Http.Limits} {protocol : Protocol}
  {http : Http.Request} {world after : World} {joining : Request} {spent : Disk} {error : Error}

/-- The address that the node has called is written as its own address is. -/
def CallsSelf (http : Http.Request) (joining : Request) : Prop :=
  IpAddress.ofText? (HostPort.split joining.contacted).host = some http.peer.address.canonical

theorem reads_of_joinRequest (asked : Http.joinRequest http = .ok joining) :
    IpAddress.ofText? joining.remote = some http.peer.address.canonical := by
  obtain ⟨_, _, _, connected⟩ := parts_of_joinRequest asked
  rw [connected]
  exact IpAddress.ofText?_toText _

/-- A request to join that is well formed is answered as the join ends. -/
theorem respond_of_joinRequest (route : Http.protocolAt? http.route = some protocol)
    (posted : http.method = "POST") (asked : Http.joinRequest http = .ok joining) :
    Http.respond surroundings limits http world =
      match (join surroundings (.until (world.clock + limits.joinTimeout) limits.membershipIsHeld)
        protocol joining).run world with
      | (.ok response, world) => (.json 200 response.toJson, world)
      | (.error error, world) => (Http.joinFailure error, world) := by
  rw [Http.respond, route]
  dsimp only
  rw [if_pos posted]
  unfold Http.respondToJoin
  generalize Http.joinRequest http = decoded at asked ⊢
  subst asked
  rfl

theorem respond_of_self (passes : PassesFirst protocol http world joining spent)
    (callsSelf : CallsSelf http joining) :
    Http.respond surroundings limits http world =
        (Http.joinFailure (.selfJoin http.peer.address.canonical.toText),
          { world with disk := spent }) ∧
      SpendsOnly joining.token world { world with disk := spent } := by
  have ran : (join surroundings (.until (world.clock + limits.joinTimeout)
      limits.membershipIsHeld) protocol joining).run world = _ :=
    join_of_self passes.accepted passes.backend passes.port (reads_of_joinRequest passes.asked)
      callsSelf
  have isRefusal : IsRefusal (.selfJoin http.peer.address.canonical.toText) := by
    simp [IsRefusal, Error.code, refusalCodes]
  refine ⟨?_, ?_⟩
  · rw [respond_of_joinRequest passes.route passes.posted passes.asked, ran]
  · rcases (refused_join_cases _ _ _ _ ran (Or.inr isRefusal)).2 with
      ⟨impossible, _⟩ | ⟨_, spends, _⟩
    · cases impossible
    · exact spends

theorem respond_not_self (passes : PassesFirst protocol http world joining spent)
    (notSelf : ¬CallsSelf http joining) :
    ¬RefusesSelf (Http.respond surroundings limits http world).1 := by
  rw [respond_of_joinRequest passes.route passes.posted passes.asked]
  rcases ran : (join surroundings (.until (world.clock + limits.joinTimeout)
    limits.membershipIsHeld) protocol joining).run world with ⟨error | response, after⟩
  · intro refuses
    obtain ⟨address, rfl⟩ := error_of_refusesSelf refuses
    exact join_not_self passes.accepted (reads_of_joinRequest passes.asked) notSelf address after
      ran
  · rintro ⟨address, same⟩
    cases congrArg Http.Response.status same

/-- Past its token, the store and the port a node is refused as one that called itself exactly when
the host that it called is its address in canonical form; then nothing but the entry of the token
changes. So an address of its own in the mapped form is not noticed. -/
theorem self_join_refused_iff (passes : PassesFirst protocol http world joining spent)
    (surroundings : Surroundings) (limits : Http.Limits) :
    http.header? "host" = some joining.contacted ∧
      (RefusesSelf (Http.respond surroundings limits http world).1 ↔
        IpAddress.ofText? (HostPort.split joining.contacted).host =
          some http.peer.address.canonical) ∧
      (IpAddress.ofText? (HostPort.split joining.contacted).host =
          some http.peer.address.canonical →
        Http.respond surroundings limits http world =
            (Http.joinFailure (.selfJoin http.peer.address.canonical.toText),
              { world with disk := spent }) ∧
          SpendsOnly joining.token world { world with disk := spent }) ∧
      ∀ address, IpAddress.ofText? (HostPort.split joining.contacted).host = some address →
        address.canonical = http.peer.address.canonical →
          (RefusesSelf (Http.respond surroundings limits http world).1 ↔
            address.canonical = address) := by
  have refused : RefusesSelf (Http.respond surroundings limits http world).1 ↔
      CallsSelf http joining := by
    refine ⟨fun refuses => ?_, fun callsSelf => ⟨_, congrArg Prod.fst
      (respond_of_self passes callsSelf).1⟩⟩
    by_contra notSelf
    exact respond_not_self passes notSelf refuses
  obtain ⟨_, _, host, _⟩ := parts_of_joinRequest passes.asked
  refine ⟨host, refused, respond_of_self passes, fun address isAddress sameAddress => ?_⟩
  rw [refused, CallsSelf, isAddress, Option.some_inj, ← sameAddress, eq_comm]

end Responding

/-! ## An address in two forms -/

/-- A node asks to join at the host that it has called. -/
def calling (host : String) (peer : IpAddress) : Http.Request :=
  { posting (octetsOf shortBody) with
    headers := [("Host", host.toUTF8), ("Content-Type", "application/json".toUTF8)]
    peer := ⟨peer, 40000, 0⟩ }

def calledFrom (host : String) : Request :=
  { shortRequest with contacted := host, remote := "10.0.0.2" }

def tokenSpent : Disk :=
  ((Tokens.consume .cluster "abc" movedStore.seconds).run movedStore.disk).2

theorem passesFirst_calling (host : String) (peer : IpAddress)
    (asked : Http.joinRequest (calling host peer) = .ok (calledFrom host)) :
    PassesFirst .replicatedStore (calling host peer) movedStore (calledFrom host) tokenSpent where
  route := by
    have route : Http.protocolAt? (calling "" (.v4 0)).route = some .replicatedStore := by
      decide +kernel
    exact route
  posted := rfl
  asked := asked
  accepted := by
    have accepted : (Tokens.consume .cluster "abc" movedStore.seconds).run movedStore.disk =
        (.ok true, tokenSpent) :=
      run_of_toOption (by decide +kernel)
    exact accepted
  backend := by decide +kernel
  port := by
    have port : shortRequest.port = agentPort movedStore.disk := by decide +kernel
    exact port

theorem mappedPeer_refused :
    PassesFirst .replicatedStore (calling " [10.0.0.2]:25001" (.v6 0xffff0a000002)) movedStore
        (calledFrom " [10.0.0.2]:25001") tokenSpent ∧
      Http.respond Rehearsal.quiet ⟨1000, false⟩
          (calling " [10.0.0.2]:25001" (.v6 0xffff0a000002)) movedStore =
        (.failure 400 "self_join" "the joining node has the same address (10.0.0.2) as this node",
          { movedStore with disk := tokenSpent }) ∧
      SpendsOnly "abc" movedStore { movedStore with disk := tokenSpent } := by
  have passes := passesFirst_calling " [10.0.0.2]:25001" (.v6 0xffff0a000002)
    (by decide +kernel)
  have callsSelf : IpAddress.ofText? (HostPort.split " [10.0.0.2]:25001").host =
      some (IpAddress.canonical (.v6 0xffff0a000002)) := by
    decide +kernel
  obtain ⟨answered, spends⟩ :=
    (self_join_refused_iff passes Rehearsal.quiet ⟨1000, false⟩).2.2.1 callsSelf
  have named : (IpAddress.canonical (.v6 0xffff0a000002)).toText = "10.0.0.2" := by decide +kernel
  refine ⟨passes, answered.trans ?_, spends⟩
  change (Http.joinFailure (.selfJoin (IpAddress.canonical (.v6 0xffff0a000002)).toText), _) = _
  rw [named]
  rfl

/-- A node is not refused when it has called itself by the mapped form of its address. -/
theorem mapped_host_not_refused :
    ¬∀ (surroundings : Surroundings) (limits : Http.Limits) (protocol : Protocol)
      (http : Http.Request) (world : World) (joining : Request) (spent : Disk)
      (address : IpAddress), PassesFirst protocol http world joining spent →
        IpAddress.ofText? (HostPort.split joining.contacted).host = some address →
          address.canonical = http.peer.address.canonical →
            RefusesSelf (Http.respond surroundings limits http world).1 := by
  intro compared
  have passes := passesFirst_calling "[::ffff:10.0.0.2]:25001" (.v4 0x0a000002)
    (by decide +kernel)
  refine respond_not_self passes ?_ (compared Rehearsal.quiet ⟨1000, false⟩ _ _ _ _ _
    (.v6 0xffff0a000002) passes (by decide +kernel) (by decide +kernel))
  change ¬IpAddress.ofText? (HostPort.split "[::ffff:10.0.0.2]:25001").host =
    some (IpAddress.canonical (.v4 0x0a000002))
  decide +kernel

end Join
end ClusterAgent
