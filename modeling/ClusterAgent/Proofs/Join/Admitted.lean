import ClusterAgent.Proofs.Join.Footprint
import ClusterAgent.Proofs.Join.Stages
namespace ClusterAgent

open Running World

namespace Join

/-! ## A join that succeeds -/

section Succeeding

variable {surroundings : Surroundings} {patience : Patience} {protocol : Protocol}
  {request : Request} {remote : IpAddress} {before after : World} {response : Response}

theorem join_ok
    (ran : (join surroundings patience protocol request).run before = (.ok response, after)) :
    ∃ spent,
      (Tokens.consume .cluster request.token before.seconds).run before.disk = (.ok true, spent) ∧
        (grant surroundings patience protocol request).run { before with disk := spent } =
          (.ok response, after) := by
  rw [join_eq] at ran
  obtain ⟨_, _, fetched, ran⟩ := bind_ok ran
  cases fetched
  obtain ⟨accepted, middle, consumed, ran⟩ := bind_ok ran
  obtain ⟨consumed, shape⟩ := onDisk_ran (adapt_ok consumed)
  rw [shape] at ran
  cases accepted with
  | false => cases ran
  | true => exact ⟨middle.disk, consumed, ran⟩

theorem grant_ok
    (ran : (grant surroundings patience protocol request).run before = (.ok response, after)) :
    ∃ remote override admitted middle,
      check protocol request before.disk = .ok remote ∧
        hostnameOverride surroundings.resolve request.hostname remote = .ok override ∧
          (admitBy surroundings patience protocol request remote).run before =
              (.ok admitted, middle) ∧
            (complete surroundings protocol request remote override admitted).run middle =
              (.ok response, after) := by
  obtain ⟨_, _, fetched, ran⟩ := bind_ok ran
  cases fetched
  obtain ⟨remote, passed, ran⟩ := given_ok ran
  obtain ⟨override, named, ran⟩ := given_ok ran
  obtain ⟨admitted, middle, admission, ran⟩ := bind_ok ran
  exact ⟨remote, override, admitted, middle, passed, named, admission, ran⟩

theorem remoteAddress_ok (found : remoteAddress request = .ok remote) :
    IpAddress.ofText? request.remote = some remote ∧
      IpAddress.ofText? (HostPort.split request.contacted).host ≠ some remote := by
  unfold remoteAddress at found
  split at found
  · cases found
  · rename_i address reads
    split at found
    · cases found
    · rename_i different
      cases found
      exact ⟨reads, different⟩

theorem check_ok {disk : Disk} (passed : check protocol request disk = .ok remote) :
    NodeState.backend disk = protocol.requiredBackend ∧ request.port = agentPort disk ∧
      remoteAddress request = .ok remote := by
  unfold check at passed
  dsimp only at passed
  split at passed
  · cases passed
  · rename_i sameBackend
    split at passed
    · cases passed
    · rename_i samePort
      exact ⟨Decidable.not_not.mp sameBackend, (Decidable.not_not.mp samePort).symm, passed⟩

/-- The hostname leads to the joining node and stays, or it leads nowhere and the node's address
stands for it. -/
theorem hostnameOverride_ok {resolve : String → Option (List IpAddress)} {hostname : String}
    {override : Option String} (found : hostnameOverride resolve hostname remote = .ok override) :
    (hostname ≠ "" ∧ (∃ addresses, resolve hostname = some addresses ∧ remote ∈ addresses) ∧
        override = none) ∨
      ((hostname = "" ∨ resolve hostname = none ∨ resolve hostname = some []) ∧
        override = some remote.toText) := by
  unfold hostnameOverride at found
  split at found
  · rename_i empty
    cases found
    exact Or.inr ⟨Or.inl (String.isEmpty_iff.mp empty), rfl⟩
  · rename_i nonempty
    split at found
    · rename_i unresolved
      cases found
      exact Or.inr ⟨Or.inr (Or.inl unresolved), rfl⟩
    · rename_i nowhere
      cases found
      exact Or.inr ⟨Or.inr (Or.inr nowhere), rfl⟩
    · rename_i addresses _ resolved
      split at found
      · rename_i member
        cases found
        refine Or.inl ⟨fun empty => nonempty ?_, ⟨addresses, resolved, member⟩, rfl⟩
        exact String.isEmpty_iff.mpr empty
      · cases found

/-! ## Admission -/

variable {admitted : Admitted}

/-- A node that was admitted to the store was no member under the text of its address. The voters
it learns of are those that were listed then, unless the store stood alone on loopback: then it
was moved, and the voters are those that it lists once its first member is off loopback. -/
theorem admitToStore_ok
    (ran : (admitToStore surroundings patience request remote).run before =
      (.ok admitted, after)) :
    ∃ snapshot,
      Membership.membersOn before.disk = .ok snapshot ∧
        (∀ member ∈ snapshot.members, member.host ≠ remote.toText) ∧
          (snapshot.isBootstrap = false ∧ admitted = ⟨some snapshot.voters, none⟩ ∨
            snapshot.isBootstrap = true ∧
              ∃ host restarted time later,
                surroundings.interfaces.bindAddress request.contacted = .ok host ∧
                  (Membership.moveBootstrap surroundings host).run before = (.ok (), restarted) ∧
                    Membership.membersOn (restarted.settle time).disk = .ok later ∧
                      later.hasMoved = true ∧ admitted = ⟨some later.voters, none⟩) := by
  rw [admitToStore_eq] at ran
  obtain ⟨_, _, held, ran⟩ := bind_ok ran
  cases holdMembership_ok held
  obtain ⟨snapshot, _, read, ran⟩ := bind_ok ran
  have same := membership_still.reaches read
  subst same
  refine ⟨snapshot, congrArg Prod.fst (adapt_ok read), ?_⟩
  unfold admitAsSeen at ran
  split at ran
  · cases ran
  · rename_i notListed
    refine ⟨fun member listed sameHost => notListed ?_, ?_⟩
    · exact List.any_eq_true.mpr ⟨member, listed, beq_iff_eq.mpr sameHost⟩
    · split at ran
      · rename_i bootstrap
        split at ran
        · cases ran
        · rename_i host found
          obtain ⟨_, restarted, moved, ran⟩ := bind_ok ran
          obtain ⟨later, _, awaited, ran⟩ := bind_ok ran
          cases ran
          obtain ⟨⟨time, rfl⟩, listed, hasMoved⟩ := awaitMove_listed awaited
          exact Or.inr ⟨bootstrap, host, restarted, time, later, found, adapt_ok moved, listed,
            hasMoved, rfl⟩
      · rename_i notBootstrap
        cases ran
        exact Or.inl ⟨by simpa using notBootstrap, rfl⟩

/-- A node that was admitted to an etcd cluster is behind none of its endpoints. -/
theorem admitToEtcd_ok
    (ran : (admitToEtcd patience remote).run before = (.ok admitted, after)) :
    remote.toText ∉ Endpoints.hosts (etcdServers before.disk) := by
  obtain ⟨_, _, held, ran⟩ := bind_ok ran
  cases holdMembership_ok held
  obtain ⟨_, _, fetched, ran⟩ := bind_ok ran
  cases fetched
  dsimp only at ran
  split at ran
  · cases ran
  · rename_i notListed
    exact notListed

/-! ## Credentials -/

theorem onState_ok {α : Type} {step : Disk.Step FileError α} {value : α} (still : Within Eq step)
    (ran : (onState step).run before = (.ok value, after)) :
    after = before ∧ step.run before.disk = (.ok value, before.disk) := by
  have same : before = after := (within_adapt (onDisk_still still)).reaches ran
  subst same
  exact ⟨rfl, (onDisk_ran (adapt_ok ran)).1⟩

/-- A member's keys are those of its store, read from the disk that the join leaves. -/
structure MemberReceives (protocol : Protocol) (admitted : Admitted) (disk : Disk)
    (credentials : MemberCredentials) : Prop where
  voters : credentials.voters = admitted.voters
  etcdServers : credentials.etcdServers = admitted.etcdServers
  certificate :
    disk.textOf (certificatePlace protocol.requiredBackend) = .ok credentials.clusterCertificate
  key : disk.textOf (keyPlace protocol.requiredBackend) = .ok credentials.clusterKey
  serviceAccountKey : disk.textOf Layout.serviceAccountKey = .ok credentials.serviceAccountKey
  adminToken : NodeState.adminToken.run disk = (.ok credentials.adminToken, disk)
  authorityKey : disk.textOf Layout.authorityKey = .ok credentials.authorityKey

theorem memberCredentials_ok {credentials : Credentials}
    (ran : (memberCredentials protocol admitted).run before = (.ok credentials, after)) :
    ∃ member, credentials = .member member ∧
      MemberReceives protocol admitted after.disk member := by
  have same := (memberCredentials_within protocol admitted).reaches ran
  subst same
  obtain ⟨pair, _, readPair, ran⟩ := bind_ok ran
  obtain ⟨rfl, readPair⟩ := onState_ok (clusterKeyPair_within protocol) readPair
  obtain ⟨serviceAccountKey, _, readServiceAccountKey, ran⟩ := bind_ok ran
  obtain ⟨rfl, readServiceAccountKey⟩ :=
    onState_ok (Disk.readWhole_within _) readServiceAccountKey
  obtain ⟨adminToken, _, readAdminToken, ran⟩ := bind_ok ran
  have same := (onDisk_still NodeState.adminToken_within).reaches (adapt_ok readAdminToken)
  subst same
  obtain ⟨authorityKey, _, readAuthorityKey, ran⟩ := bind_ok ran
  obtain ⟨rfl, readAuthorityKey⟩ := onState_ok (Disk.readWhole_within _) readAuthorityKey
  cases ran
  rw [clusterKeyPair_eq] at readPair
  obtain ⟨certificate, key⟩ := NodeState.readKeyPair_ok readPair
  exact ⟨_, rfl, rfl, rfl, certificate, key, Disk.readWhole_ok readServiceAccountKey,
    (onDisk_ran (adapt_ok readAdminToken)).1, Disk.readWhole_ok readAuthorityKey⟩

/-- A worker gets no keys, and every other node gets those of a member. -/
theorem complete_ok {override : Option String}
    (ran : (complete surroundings protocol request remote override admitted).run before =
      (.ok response, after)) :
    response.hostnameOverride = override ∧
      (request.worker = true ∧ (∃ nodes, response.credentials = .worker nodes) ∨
        request.worker = false ∧
          ∃ member, response.credentials = .member member ∧
            MemberReceives protocol admitted after.disk member) := by
  obtain ⟨_, _, _, ran⟩ := bind_ok ran
  obtain ⟨_, _, _, ran⟩ := bind_ok ran
  obtain ⟨_, _, _, ran⟩ := bind_ok ran
  obtain ⟨_, _, _, ran⟩ := bind_ok ran
  obtain ⟨_, _, _, ran⟩ := bind_ok ran
  obtain ⟨_, _, _, ran⟩ := bind_ok ran
  obtain ⟨_, _, _, ran⟩ := bind_ok ran
  dsimp only at ran
  split at ran
  · rename_i worker
    obtain ⟨credentials, _, given, ran⟩ := bind_ok ran
    cases ran
    obtain ⟨_, _, _, given⟩ := bind_ok given
    obtain ⟨nodes, _, _, given⟩ := bind_ok given
    cases given
    exact ⟨rfl, Or.inl ⟨worker, nodes, rfl⟩⟩
  · rename_i notWorker
    obtain ⟨credentials, _, given, ran⟩ := bind_ok ran
    cases ran
    exact ⟨rfl, Or.inr ⟨by simpa using notWorker, memberCredentials_ok given⟩⟩

end Succeeding

end Join
end ClusterAgent
