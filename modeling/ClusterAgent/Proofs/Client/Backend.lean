import ClusterAgent.Proofs.Client.Install
import ClusterAgent.Proofs.Join.Refusals
namespace ClusterAgent

open Disk Running

namespace Join

/-! ## Joins by the protocol of another store -/

section Mismatch

variable {surroundings : Surroundings} {patience : Patience} {protocol : Protocol}
  {request : Request} {before : World} {spent : Disk}

theorem check_of_mismatch {disk : Disk}
    (other : NodeState.backend disk ≠ protocol.requiredBackend) :
    check protocol request disk =
      .error (.backendMismatch protocol (NodeState.backend disk)) := by
  unfold check
  dsimp only
  rw [if_pos other]
  rfl

theorem check_not_mismatch {disk : Disk} (found : Backend)
    (same : NodeState.backend disk = protocol.requiredBackend) :
    check protocol request disk ≠ .error (.backendMismatch protocol found) := by
  intro failed
  unfold check at failed
  dsimp only at failed
  split at failed
  · rename_i other
    exact other same
  · split at failed
    · cases failed
    · rw [remoteAddress] at failed
      split at failed
      · cases failed
      · split at failed <;> cases failed

/-- With a token that is accepted, a node is refused for its protocol exactly when the protocol
needs another store than the one that this node runs. -/
theorem join_mismatch_iff
    (accepted : (Tokens.consume .cluster request.token before.seconds).run before.disk =
      (.ok true, spent)) :
    (∃ after, (join surroundings patience protocol request).run before =
        (.error (.backendMismatch protocol (NodeState.backend before.disk)), after)) ↔
      NodeState.backend before.disk ≠ protocol.requiredBackend := by
  have changes : ChangesOnly (Tokens.footprint .cluster) before.disk spent :=
    Tokens.consume_within.reaches accepted
  have backend : NodeState.backend spent = NodeState.backend before.disk :=
    NodeState.backend_elsewhere changes (by decide)
  rw [join_of_accepted accepted]
  constructor
  · rintro ⟨after, ran⟩ same
    rw [← backend] at same
    rcases bind_error ran with failed | ⟨_, _, fetched, ran⟩
    · cases failed
    cases fetched
    rcases bind_error ran with failed | ⟨remote, _, _, ran⟩
    · exact check_not_mismatch _ same (Prod.mk.inj failed).1
    · exact admission_avoids surroundings patience protocol request remote _ _ after ran trivial
  · intro other
    rw [← backend] at other
    refine ⟨{ before with disk := spent }, ?_⟩
    rw [grant, run_bind, run_get]
    dsimp only
    rw [check_of_mismatch other, ← backend]
    rfl

/-- Of the nodes that join with an accepted token, a node on this store refuses those for their
protocol that need the other one, and no others. -/
def RefusesOthers (backend : Backend) : Prop :=
  ∀ (surroundings : Surroundings) (patience : Patience) (protocol : Protocol) (request : Request)
    (serving : World) (spent : Disk), NodeState.backend serving.disk = backend →
      (Tokens.consume .cluster request.token serving.seconds).run serving.disk =
          (.ok true, spent) →
        ((∃ served, (join surroundings patience protocol request).run serving =
            (.error (.backendMismatch protocol backend), served)) ↔
          backend ≠ protocol.requiredBackend)

theorem refusesOthers (backend : Backend) : RefusesOthers backend := by
  rintro surroundings patience protocol request serving spent rfl accepted
  exact join_mismatch_iff accepted

end Mismatch

end Join

namespace Install

/-! ## The store that an installed member runs -/

section Installing

variable {protocol : Join.Protocol} {peer token : String} {bundle : Bundle} {before after : Disk}

theorem installStore_backend (isStore : protocol = .replicatedStore)
    (ran : (installStore protocol bundle).run before = (.ok (), after)) :
    NodeState.backend after = .replicatedStore := by
  subst isStore
  have marked := touch_ok (by decide) (adapt_ok ran)
  rw [NodeState.backend, marked]
  rfl

theorem backend_of_member (notStore : protocol ≠ .replicatedStore)
    (changes : ChangesOnly (memberFootprint protocol) before after) :
    NodeState.backend after = NodeState.backend before := by
  refine NodeState.backend_elsewhere changes ?_
  cases protocol with
  | replicatedStore => exact absurd rfl notStore
  | legacy => decide
  | etcdHa => decide

theorem install_backend
    (ran : (install protocol peer token false bundle).run before = (.ok (), after)) :
    NodeState.backend after =
      if protocol = .replicatedStore then .replicatedStore else NodeState.backend before := by
  obtain ⟨_, middle, ranCommon, ran⟩ := bind_ok ran
  have common : ChangesOnly (handedFootprint ++ callbackFootprint) before middle :=
    (common_within peer bundle).reaches ranCommon
  have member : ChangesOnly (memberFootprint protocol) middle after :=
    (controlPlane_within protocol peer bundle).reaches ran
  by_cases isStore : protocol = .replicatedStore
  · obtain ⟨keys, _, ran⟩ := controlPlane_ok ran
    obtain ⟨_, _, _, _, _, stored⟩ := withKeys_ok ran
    rw [if_pos isStore]
    exact installStore_backend isStore stored
  · rw [if_neg isStore, backend_of_member isStore member]
    exact NodeState.backend_elsewhere common (by decide)

/-- An installation makes the node run the replicated store if that is what it joins, and leaves
the store as it was otherwise. So the node runs the store of the cluster that it joined unless it
ran the replicated store before and joined by another protocol. By the store that it runs it
refuses those who join it. -/
theorem installed_backend
    (ran : (install protocol peer token false bundle).run before = (.ok (), after)) :
    (NodeState.backend after =
        if protocol = .replicatedStore then .replicatedStore else NodeState.backend before) ∧
      (NodeState.backend after = protocol.requiredBackend ↔
        protocol = .replicatedStore ∨ NodeState.backend before = .etcd) ∧
      Join.RefusesOthers (NodeState.backend after) := by
  have backend := install_backend ran
  refine ⟨backend, ?_, Join.refusesOthers _⟩
  rw [backend]
  cases protocol with
  | replicatedStore => simp [Join.Protocol.requiredBackend]
  | legacy => simp [Join.Protocol.requiredBackend]
  | etcdHa => simp [Join.Protocol.requiredBackend]

end Installing

/-! ## A member that ran the replicated store before -/

def etcdBundle : Bundle where
  authority := "CA CERT"
  callbackToken := "token-0"
  apiPort := "16443"
  authorizationMode := "AlwaysAllow"
  kubeletFlags := "--v=2\n"
  hostnameOverride := none
  voters := none
  serviceAccountKey := some "SA KEY"
  adminToken := some "root"
  authorityKey := some "CA KEY"
  clusterCertificate := some "CERT"
  clusterKey := some "KEY"
  etcdServers := some "https://10.0.0.1:12379"
  controlPlaneNodes := []

/-- A data directory in which the marker of the replicated store was left over. -/
def leftoverMarker : Disk :=
  { Disk.empty "/data" with
    entries :=
      [(["var"], .directory), (["var", "lock"], .directory),
        (["var", "lock", "ha-cluster"], .file .empty false)] }

def leftoverInstalled : Disk :=
  ((install .etcdHa "10.0.0.1:25000" "abc" false etcdBundle).run leftoverMarker).2

theorem leftoverMarker_installs :
    (install .etcdHa "10.0.0.1:25000" "abc" false etcdBundle).run leftoverMarker =
      (.ok (), leftoverInstalled) :=
  run_of_toOption (by decide +kernel)

theorem leftoverMarker_backend :
    (NodeState.backend leftoverInstalled =
        if Join.Protocol.etcdHa = .replicatedStore then .replicatedStore
        else NodeState.backend leftoverMarker) ∧
      (NodeState.backend leftoverInstalled = Join.Protocol.etcdHa.requiredBackend ↔
        Join.Protocol.etcdHa = .replicatedStore ∨ NodeState.backend leftoverMarker = .etcd) ∧
      Join.RefusesOthers (NodeState.backend leftoverInstalled) :=
  installed_backend leftoverMarker_installs

/-- An installed member may run another store than the cluster that it joined. -/
theorem installed_member_may_run_another_store :
    ∃ after, (install .etcdHa "10.0.0.1:25000" "abc" false etcdBundle).run leftoverMarker =
        (.ok (), after) ∧
      NodeState.backend after ≠ Join.Protocol.requiredBackend .etcdHa :=
  ⟨leftoverInstalled, leftoverMarker_installs, by decide +kernel⟩

end Install
end ClusterAgent
