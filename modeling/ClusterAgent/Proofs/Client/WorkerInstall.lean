import ClusterAgent.Proofs.Client.Install
namespace ClusterAgent
namespace Install

open Disk Running

/-! ## What a worker installs -/

/-- The files that a worker may write. -/
def workerFootprint : List (List String) :=
  handedFootprint ++ callbackFootprint ++
    [Layout.workerTokens.names, Layout.workerTokens.temporary]

/-- The bundle without the parts that only members of the control plane use. -/
def withoutMemberParts (bundle : Bundle) : Bundle :=
  { bundle with
    voters := none
    serviceAccountKey := none
    adminToken := none
    authorityKey := none
    clusterCertificate := none
    clusterKey := none
    etcdServers := none }

section Worker

variable {protocol other : Join.Protocol} {peer token : String} {bundle : Bundle}
  {before after : Disk} {result : Except Error Unit} {names : List String}

theorem install_worker_eq (protocol : Join.Protocol) (peer token : String) (bundle : Bundle) :
    install protocol peer token true bundle = (do
      common peer bundle
      secret Layout.workerTokens (workerTokens token)) :=
  rfl

theorem install_worker_within (protocol : Join.Protocol) (peer token : String)
    (bundle : Bundle) :
    Within (ChangesOnly workerFootprint) (install protocol peer token true bundle) := by
  rw [install_worker_eq]
  apply within_bind
  · exact within_mono (common_within peer bundle) fun _ _ changes =>
      changes.mono (List.subset_append_left _ _)
  · intro _
    apply secret_within
    · simp [workerFootprint]
    · simp [workerFootprint]

/-- No file of a member of the control plane is one that a worker may write. -/
theorem memberFootprint_disjoint (member : names ∈ memberFootprint other) :
    names ∉ workerFootprint := by
  revert names
  cases other <;> decide

/-- All that a worker writes stands beside the directory of the marker. -/
theorem marker_elsewhere : Elsewhere workerFootprint Layout.replicatedStoreMarker.names := by
  decide

/-- A worker installs no material of the control plane, whatever the peer sends and however the
installation ends: only the files of a worker change, no file of a member does, the node runs the
store that it ran before, and what the bundle holds for members makes no difference. -/
theorem worker_installs_no_keys
    (ran : (install protocol peer token true bundle).run before = (result, after)) :
    (∀ names, names ∉ workerFootprint → after.fileAt? names = before.fileAt? names) ∧
      (∀ other, ∀ names ∈ memberFootprint other,
        after.fileAt? names = before.fileAt? names) ∧
      NodeState.backend after = NodeState.backend before ∧
      (∃ fresh, after.written = fresh ++ before.written ∧ fresh ⊆ workerFootprint) ∧
      ∀ other, (install other peer token true (withoutMemberParts bundle)).run before =
        (result, after) := by
  have changes : ChangesOnly workerFootprint before after :=
    (install_worker_within protocol peer token bundle).reaches ran
  refine ⟨fun names apart => changes.fileAt? apart, ?_, ?_, changes.written, ?_⟩
  · intro other names member
    exact changes.fileAt? (memberFootprint_disjoint member)
  · exact NodeState.backend_elsewhere changes marker_elsewhere
  · intro other
    exact ran

end Worker

/-! ## A worker that is sent everything -/

/-- A bundle with all that a member gets. -/
def memberBundle : Bundle where
  authority := "CA CERT"
  callbackToken := "token-0"
  apiPort := "16443"
  authorizationMode := "RBAC,Node"
  kubeletFlags := "--v=2\n"
  hostnameOverride := some "10.0.0.2"
  voters := some ["10.0.0.1:19001"]
  serviceAccountKey := some "SA KEY"
  adminToken := some "root"
  authorityKey := some "CA KEY"
  clusterCertificate := some "CERT"
  clusterKey := some "KEY"
  etcdServers := some "https://10.0.0.1:12379"
  controlPlaneNodes := []

/-- A node that has a key and an administrator's token of its own. -/
def keyedNode : Disk :=
  { Disk.empty "/data" with
    entries :=
      [(["certs"], .directory), (["credentials"], .directory),
        (["certs", "ca.key"], .file "OLD KEY".toUTF8 true),
        (["credentials", "known_tokens.csv"], .file "old,admin,admin\n".toUTF8 true)] }

def keyedWorker : Disk :=
  ((install .replicatedStore "10.0.0.1:25000" "abc" true memberBundle).run keyedNode).2

theorem keyedWorker_installed :
    (install .replicatedStore "10.0.0.1:25000" "abc" true memberBundle).run keyedNode =
      (.ok (), keyedWorker) :=
  run_of_toOption (by decide +kernel)

theorem keyedWorker_keeps_keys :
    keyedWorker.fileAt? Layout.authorityKey.names = some ("OLD KEY".toUTF8, true) ∧
      keyedWorker.fileAt? Layout.knownTokens.names =
        some ("old,admin,admin\n".toUTF8, true) ∧
      keyedWorker.fileAt? Layout.serviceAccountKey.names = none ∧
      keyedWorker.fileAt? Layout.replicatedStoreMarker.names = none ∧
      NodeState.backend keyedWorker = NodeState.backend keyedNode := by
  obtain ⟨-, kept, backend, -⟩ := worker_installs_no_keys keyedWorker_installed
  exact ⟨kept .replicatedStore _ (by decide), kept .replicatedStore _ (by decide),
    kept .replicatedStore _ (by decide), kept .replicatedStore _ (by decide), backend⟩

end Install
end ClusterAgent
