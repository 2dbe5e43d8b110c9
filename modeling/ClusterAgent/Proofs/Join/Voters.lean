import ClusterAgent.Proofs.Join.Moving
namespace ClusterAgent

open Running World

namespace Membership

/-! ## The voters that a snapshot lists -/

/-- There is a voter to turn to, and none that can be reached from its own machine only. -/
def Usable (voters : List String) : Prop :=
  voters ≠ [] ∧ ∀ address ∈ voters, HostPort.onLoopback address = false

theorem mem_voters {snapshot : Snapshot} {address : String} :
    address ∈ snapshot.voters ↔
      ∃ member ∈ snapshot.members, member.role = .voter ∧ member.address = address := by
  simp [Snapshot.voters, and_assoc]

theorem usable_voters_iff {snapshot : Snapshot} :
    Usable snapshot.voters ↔
      (∃ member ∈ snapshot.members, member.role = .voter) ∧
        ∀ member ∈ snapshot.members, member.role = .voter → member.isLoopback = false := by
  constructor
  · rintro ⟨nonempty, offLoopback⟩
    constructor
    · obtain ⟨address, listed⟩ := List.exists_mem_of_ne_nil _ nonempty
      obtain ⟨member, member_mem, votes, _⟩ := mem_voters.mp listed
      exact ⟨member, member_mem, votes⟩
    · intro member member_mem votes
      exact offLoopback _ (mem_voters.mpr ⟨member, member_mem, votes, rfl⟩)
  · rintro ⟨⟨member, member_mem, votes⟩, offLoopback⟩
    constructor
    · exact List.ne_nil_of_mem (mem_voters.mpr ⟨member, member_mem, votes, rfl⟩)
    · intro address listed
      obtain ⟨other, other_mem, otherVotes, rfl⟩ := mem_voters.mp listed
      exact offLoopback other other_mem otherVotes

/-- A store that moves was told the address that is chosen. -/
theorem chosenFor_of_moveBootstrap {surroundings : Surroundings} {contacted host : String}
    {before after : World} (bound : surroundings.interfaces.bindAddress contacted = .ok host)
    (ran : (moveBootstrap surroundings host).run before = (.ok (), after)) :
    ∃ port, ChosenFor surroundings.interfaces contacted before.disk host port := by
  obtain ⟨snapshot, _, listed, ran⟩ := bind_ok ran
  obtain ⟨address, isMoved, _⟩ := given_ok ran
  obtain ⟨member, port, rfl, loopback, found, _⟩ := movedTo_ok isMoved
  exact ⟨port, ⟨member, congrArg Prod.fst listed, loopback, found⟩, bound⟩

end Membership

namespace Join

open ClusterAgent.Membership

/-! ## Where the voters come from -/

/-- The snapshot whose voters a new member is given: what the store listed before the join, or
what it lists some time after it was moved. -/
inductive TakenFrom (surroundings : Surroundings) (request : Request) (remote : IpAddress)
    (before : World) (snapshot : Snapshot) : Prop
  | asListed (listed : membersOn before.disk = .ok snapshot)
      (notBootstrap : snapshot.isBootstrap = false)
      (notMember : ∀ member ∈ snapshot.members, member.host ≠ remote.toText)
  | afterMove {host port : String} {spent : Disk} {restarted : World} {time : Nat}
      (chosen : ChosenFor surroundings.interfaces request.contacted before.disk host port)
      (ran : (moveBootstrap surroundings host).run { before with disk := spent } =
        (.ok (), restarted))
      (listed : membersOn (restarted.settle time).disk = .ok snapshot)
      (moved : snapshot.hasMoved = true)

/-- A node that calls from `remote` has become a member and was given the voters of the
snapshot. -/
structure LearnsOf (request : Request) (response : Response) (remote : IpAddress)
    (snapshot : Snapshot) : Prop where
  caller : IpAddress.ofText? request.remote = some remote
  notContacted : IpAddress.ofText? (HostPort.split request.contacted).host ≠ some remote
  voters : ∃ credentials,
    response.credentials = .member credentials ∧ credentials.voters = some snapshot.voters

section Learning

variable {surroundings : Surroundings} {patience : Patience} {request : Request}
  {before after : World} {response : Response} {remote : IpAddress} {snapshot : Snapshot}

theorem learns_of_snapshot
    (ran : (join surroundings patience .replicatedStore request).run before =
      (.ok response, after))
    (notWorker : request.worker = false) :
    ∃ remote snapshot, LearnsOf request response remote snapshot ∧
      TakenFrom surroundings request remote before snapshot := by
  obtain ⟨spent, consumed, granted⟩ := join_ok ran
  have changes : Disk.ChangesOnly (Tokens.footprint .cluster) before.disk spent :=
    Tokens.consume_within.reaches consumed
  obtain ⟨remote, override, admitted, middle, passed, _, admission, completed⟩ :=
    grant_ok granted
  obtain ⟨reads, notContacted⟩ := remoteAddress_ok (check_ok passed).2.2
  obtain ⟨member, given, receives⟩ :
      ∃ member, response.credentials = .member member ∧
        MemberReceives .replicatedStore admitted after.disk member := by
    rcases (complete_ok completed).2 with ⟨worker, _⟩ | ⟨_, received⟩
    · rw [notWorker] at worker
      cases worker
    · exact received
  have learns {snapshot : Snapshot} (same : admitted = ⟨some snapshot.voters, none⟩) :
      LearnsOf request response remote snapshot :=
    ⟨reads, notContacted, member, given, receives.voters.trans (congrArg Admitted.voters same)⟩
  have samePlace : membersOn spent = membersOn before.disk :=
    membersOn_elsewhere changes (by decide)
  obtain ⟨snapshot, listed, notMember, ⟨notBootstrap, same⟩ | ⟨_, host, restarted, time, later,
    bound, moving, listedLater, moved, same⟩⟩ := admitToStore_ok admission
  · exact ⟨remote, snapshot, learns same,
      .asListed (samePlace.symm.trans listed) notBootstrap notMember⟩
  · obtain ⟨port, ⟨alone, _⟩⟩ := chosenFor_of_moveBootstrap bound moving
    rw [samePlace] at alone
    exact ⟨remote, later, learns same, .afterMove ⟨alone, bound⟩ moving listedLater moved⟩

/-! ## Voters that can be used -/

/-- The snapshot of a store with one member does not list it on loopback. -/
theorem TakenFrom.lone_offLoopback
    (taken : TakenFrom surroundings request remote before snapshot) {only : Member}
    (alone : snapshot.members = [only]) : only.isLoopback = false := by
  cases taken with
  | asListed listed notBootstrap notMember =>
      simpa only [Snapshot.isBootstrap, alone] using notBootstrap
  | afterMove chosen ran listed moved =>
      simpa only [Snapshot.hasMoved, alone, Bool.not_eq_true'] using moved

/-- A new member is given all voters of one snapshot, in their order. They can be used exactly
when the snapshot lists a voter and no voter on loopback, as it does when its only member is a
voter; the join checks neither of other snapshots. -/
theorem voters_usable_iff
    (ran : (join surroundings patience .replicatedStore request).run before =
      (.ok response, after))
    (notWorker : request.worker = false) :
    ∃ remote snapshot, LearnsOf request response remote snapshot ∧
      TakenFrom surroundings request remote before snapshot ∧
        (Usable snapshot.voters ↔
          (∃ member ∈ snapshot.members, member.role = .voter) ∧
            ∀ member ∈ snapshot.members, member.role = .voter → member.isLoopback = false) ∧
          ∀ only, snapshot.members = [only] → only.role = .voter → Usable snapshot.voters := by
  obtain ⟨remote, snapshot, learns, taken⟩ := learns_of_snapshot ran notWorker
  refine ⟨remote, snapshot, learns, taken, usable_voters_iff, fun only alone votes => ?_⟩
  have offLoopback := taken.lone_offLoopback alone
  rw [usable_voters_iff, alone]
  simp [votes, offLoopback]

theorem movedStore_voters_usable :
    ∃ remote snapshot,
      LearnsOf (memberCalling "10.0.0.1:25001" "10.0.0.2")
          (memberResponse "10.0.0.2" ["10.0.0.1:19001"]) remote snapshot ∧
        TakenFrom Rehearsal.quiet (memberCalling "10.0.0.1:25001" "10.0.0.2") remote movedStore
            snapshot ∧
          (Usable snapshot.voters ↔
            (∃ member ∈ snapshot.members, member.role = .voter) ∧
              ∀ member ∈ snapshot.members, member.role = .voter → member.isLoopback = false) ∧
            ∀ only, snapshot.members = [only] → only.role = .voter → Usable snapshot.voters :=
  voters_usable_iff movedStore_admits rfl

/-- A store whose list is blank lists no voters, and still a new member is admitted. -/
theorem voters_may_be_unusable :
    ¬∀ (surroundings : Surroundings) (patience : Patience) (request : Request)
        (before after : World) (response : Response),
      (join surroundings patience .replicatedStore request).run before =
          (.ok response, after) →
        request.worker = false →
          ∀ credentials voters, response.credentials = .member credentials →
            credentials.voters = some voters → Usable voters := by
  intro usable
  have admitted :
      (join Rehearsal.quiet .endless .replicatedStore
          (memberCalling "10.0.0.1:25001" "10.0.0.2")).run (storeNode "") =
        (.ok (memberResponse "10.0.0.2" []),
          ((join Rehearsal.quiet .endless .replicatedStore
            (memberCalling "10.0.0.1:25001" "10.0.0.2")).run (storeNode "")).2) :=
    run_of_toOption (by decide +kernel)
  exact (usable _ _ _ _ _ _ admitted rfl _ _ rfl rfl).1 rfl

/-! ## Voters that are the joining node -/

/-- An address that a new member is given leads to this member itself: it was listed before in
another spelling, or the store has moved. In the latter case, when the address is the one that
the store was told, the joining node has the address of an interface of this node, on whose
subnet the contacted address lies. -/
inductive NamesCaller (surroundings : Surroundings) (request : Request) (remote : IpAddress)
    (before : World) (snapshot : Snapshot) (address : String) : Prop
  | otherSpelling (listed : membersOn before.disk = .ok snapshot)
      (differs : (HostPort.split address).host ≠ remote.toText)
  | afterMove {host port : String}
      (chosen : ChosenFor surroundings.interfaces request.contacted before.disk host port)
      (moved : snapshot.hasMoved = true)
      (ownInterface : ∀ contacted,
        IpAddress.ofText? (HostPort.split request.contacted).host = some contacted →
          address = HostPort.join host port → ':' ∉ port.toList →
            contacted ≠ remote ∧
              ∃ cidrs, surroundings.interfaces = some cidrs ∧
                ∃ cidr ∈ cidrs, cidr.address = remote ∧ cidr.contains contacted = true)

/-- The told address leads to the joining node only if an interface of this node has the
address of the joining node. -/
theorem ownInterface_of_told {host port address : String} {disk : Disk}
    (chosen : ChosenFor surroundings.interfaces request.contacted disk host port)
    (notContacted : IpAddress.ofText? (HostPort.split request.contacted).host ≠ some remote)
    (names : IpAddress.ofText? (HostPort.split address).host = some remote)
    {contacted : IpAddress}
    (reads : IpAddress.ofText? (HostPort.split request.contacted).host = some contacted)
    (told : address = HostPort.join host port) (single : ':' ∉ port.toList) :
    contacted ≠ remote ∧
      ∃ cidrs, surroundings.interfaces = some cidrs ∧
        ∃ cidr ∈ cidrs, cidr.address = remote ∧ cidr.contains contacted = true := by
  have different : contacted ≠ remote := by
    rintro rfl
    exact notContacted reads
  obtain ⟨bound, hostReads, source⟩ := Interfaces.ofText?_bindAddress chosen.bound reads
  rw [told, HostPort.host_split_join hostReads single, hostReads] at names
  cases names
  refine ⟨different, ?_⟩
  rcases source with ⟨_, rfl⟩ | ⟨cidrs, listed, selected⟩
  · exact absurd rfl different
  · obtain ⟨cidr, member, same, isContacted | around⟩ := Interfaces.select_eq_some selected
    · exact absurd isContacted.symm different
    · exact ⟨cidrs, listed, cidr, member, same, around⟩

/-- A new member is told to turn to itself only in one of these ways. -/
theorem voter_naming_caller
    (ran : (join surroundings patience .replicatedStore request).run before =
      (.ok response, after))
    (notWorker : request.worker = false) :
    ∃ remote snapshot, LearnsOf request response remote snapshot ∧
      ∀ address ∈ snapshot.voters,
        IpAddress.ofText? (HostPort.split address).host = some remote →
          NamesCaller surroundings request remote before snapshot address := by
  obtain ⟨remote, snapshot, learns, taken⟩ := learns_of_snapshot ran notWorker
  refine ⟨remote, snapshot, learns, fun address listedVoter names => ?_⟩
  cases taken with
  | asListed listed notBootstrap notMember =>
      obtain ⟨member, member_mem, _, rfl⟩ := mem_voters.mp listedVoter
      exact .otherSpelling listed (notMember member member_mem)
  | afterMove chosen ran listed moved =>
      exact .afterMove chosen moved fun _ reads told single =>
        ownInterface_of_told chosen learns.notContacted names reads told single

end Learning

/-- A store that lists an address in another spelling than the canonical one. -/
def spelledStore : World :=
  storeNode ("- Address: '[fd00::1]:19001'\n  ID: 1\n  Role: 0\n" ++
    "- Address: '[FD00::2]:19001'\n  ID: 2\n  Role: 0\n")

theorem spelledStore_admits :
    (join Rehearsal.quiet .endless .replicatedStore
        (memberCalling "[fd00::1]:25001" "fd00::2")).run spelledStore =
      (.ok (memberResponse "fd00::2" ["[fd00::1]:19001", "[FD00::2]:19001"]),
        ((join Rehearsal.quiet .endless .replicatedStore
          (memberCalling "[fd00::1]:25001" "fd00::2")).run spelledStore).2) :=
  run_of_toOption (by decide +kernel)

theorem spelledStore_names_caller :
    ∃ remote snapshot,
      LearnsOf (memberCalling "[fd00::1]:25001" "fd00::2")
          (memberResponse "fd00::2" ["[fd00::1]:19001", "[FD00::2]:19001"]) remote snapshot ∧
        ∀ address ∈ snapshot.voters,
          IpAddress.ofText? (HostPort.split address).host = some remote →
            NamesCaller Rehearsal.quiet (memberCalling "[fd00::1]:25001" "fd00::2") remote
              spelledStore snapshot address :=
  voter_naming_caller spelledStore_admits rfl

/-- The joining node may find itself among the voters that it is given. -/
theorem voters_may_name_caller :
    ¬∀ (surroundings : Surroundings) (patience : Patience) (request : Request)
        (before after : World) (response : Response),
      (join surroundings patience .replicatedStore request).run before =
          (.ok response, after) →
        request.worker = false →
          ∀ remote credentials voters, IpAddress.ofText? request.remote = some remote →
            response.credentials = .member credentials → credentials.voters = some voters →
              ∀ address ∈ voters,
                IpAddress.ofText? (HostPort.split address).host ≠ some remote := by
  intro others
  have remote : IpAddress.ofText? "fd00::2" =
      some (.v6 0xfd000000000000000000000000000002) := by
    decide +kernel
  have names : IpAddress.ofText? (HostPort.split "[FD00::2]:19001").host =
      some (.v6 0xfd000000000000000000000000000002) := by
    decide +kernel
  exact others _ _ _ _ _ _ spelledStore_admits rfl _ _ _ remote rfl rfl "[FD00::2]:19001"
    (by simp) names

end Join
end ClusterAgent
