import ClusterAgent.Proofs.Join.Guards
import ClusterAgent.Proofs.Tokens.Callbacks
namespace ClusterAgent

open Running World

namespace Autodetection

/-- The directory of the flags is there when the manifest in it is patched, so the flags beside
it are found as before. -/
theorem patchFile_lookup (host flag : String) :
    Within (fun before after : Disk => Flags.lookup "kube-apiserver" flag after =
      Flags.lookup "kube-apiserver" flag before) (patchFile host) := by
  intro before
  rcases ran : (patchFile host).run before with ⟨result, after⟩
  refine Flags.lookup_congr ?_ flag
  rcases bind_cases ran with ⟨_, fetched⟩ | ⟨_, _, fetched, ran⟩
  · cases fetched
  cases fetched
  rcases bind_cases ran with ⟨_, failed⟩ | ⟨manifest, middle, read, ran⟩
  · rw [((within_adapt (Disk.readOptional_within _)).reaches failed :)]
  obtain ⟨same, _, given⟩ := Disk.readOptional_ok (adapt_ok read)
  rw [same] at ran
  rcases given with ⟨text, found, rfl⟩ | ⟨_, rfl⟩
  · dsimp only at ran
    split at ran
    · rw [← (Prod.mk.inj ran).2]
    · have changes : Disk.ChangesOnly
          [Layout.networkManifest.names, Layout.networkManifest.temporary] before after :=
        (within_bind (within_adapt (Disk.writeAtomic_within _ (by simp) (by simp))) fun _ =>
          within_pure true).reaches ran
      obtain ⟨_, _, file, _⟩ := Disk.textOf_ok found
      obtain ⟨_, _, way, _⟩ := Disk.find_file_iff.mp file
      have directory : before.entryAt? ["args"] = some .directory :=
        way ["args"] ["cni-network", "cni.yaml"] rfl (by simp) (by simp)
      exact changes.textOf_beside (Disk.reaches_pair directory) (by decide) (by decide) (by decide)
  · rw [← (Prod.mk.inj ran).2]

end Autodetection

namespace Join

/-! ## Admission to an etcd cluster -/

section Admission

variable {surroundings : Surroundings} {patience : Patience} {protocol : Protocol}
  {request : Request} {remote : IpAddress} {admitted : Admitted} {before after : World}

theorem admitToStore_etcdServers
    (ran : (admitToStore surroundings patience request remote).run before =
      (.ok admitted, after)) : admitted.etcdServers = none := by
  obtain ⟨_, _, _, listed | moved⟩ := admitToStore_ok ran
  · rw [listed.2]
  · obtain ⟨_, _, _, _, _, _, _, _, _, shape⟩ := moved
    rw [shape]

/-- A node that joins an etcd cluster learns of the endpoints that the answering node uses, and
of that node's files only the list of callback tokens may change. -/
theorem admitBy_etcd (notStore : protocol ≠ .replicatedStore)
    (ran : (admitBy surroundings patience protocol request remote).run before =
      (.ok admitted, after)) :
    admitted.etcdServers = nonempty? (etcdServers after.disk) ∧
      Disk.ChangesOnly [Layout.tokensLock.names, Layout.callbackTokens.names,
        Layout.callbackTokens.temporary] before.disk after.disk := by
  cases protocol with
  | replicatedStore => exact absurd rfl notStore
  | etcdHa =>
      obtain ⟨_, _, held, ran⟩ := bind_ok ran
      cases holdMembership_ok held
      obtain ⟨_, _, fetched, ran⟩ := bind_ok ran
      cases fetched
      dsimp only at ran
      split at ran
      · cases ran
      · cases ran
        exact ⟨rfl, Disk.ChangesOnly.refl _ _⟩
  | legacy =>
      unfold admitBy admitLegacy at ran
      dsimp only at ran
      split at ran
      · cases ran
        exact ⟨rfl, Disk.ChangesOnly.refl _ _⟩
      · obtain ⟨_, stored, storing, ran⟩ := bind_ok ran
        cases ran
        obtain ⟨storing, _⟩ := onDisk_ran (adapt_ok storing)
        exact ⟨rfl, (Tokens.storeCallback_within _ _).reaches storing⟩

end Admission

/-! ## What every node is handed over -/

section Completion

variable {surroundings : Surroundings} {protocol : Protocol} {request : Request}
  {remote : IpAddress} {override : Option String} {admitted : Admitted} {response : Response}
  {before after : World}

/-- The response holds the token of the answering node itself, and its certificate and flags as
they stand once that token is there. -/
structure HandsOver (surroundings : Surroundings) (response : Response) (before called : Disk) :
    Prop where
  callback : ∃ drawn, (Tokens.ownCallback (surroundings.token drawn)).run before =
    (.ok response.callbackToken, called)
  authority : called.textOf Layout.authorityCertificate = .ok response.authority
  flags : called.textOf (Layout.flags "kubelet") = .ok response.kubeletFlags

/-- What a join still does when the response lacks only the credentials. -/
def finish (surroundings : Surroundings) (protocol : Protocol) (request : Request)
    (remote : IpAddress) (admitted : Admitted) : Activity Error Credentials := do
  tolerate (patchManifest surroundings remote.toText true)
  tolerate (onDisk NodeState.markNoReissue)
  if request.worker then workerCredentials surroundings request
  else memberCredentials protocol admitted

/-- Everything but the credentials is read before the network manifest is patched. -/
theorem complete_eq (surroundings : Surroundings) (protocol : Protocol) (request : Request)
    (remote : IpAddress) (override : Option String) (admitted : Admitted) :
    complete surroundings protocol request remote override admitted = (do
      let fresh ← surroundings.drawToken
      let callbackToken ← onTokens (Tokens.ownCallback fresh)
      let authority ← onState (Disk.readWhole Layout.authorityCertificate)
      let kubeletFlags ← onState (Disk.readWhole (Layout.flags "kubelet"))
      let world ← get
      let credentials ← finish surroundings protocol request remote admitted
      return {
        authority := authority
        callbackToken := callbackToken
        apiPort :=
          nonemptyOr "16443" (Flags.lookup "kube-apiserver" "--secure-port" world.disk)
        authorizationMode := nonemptyOr "AlwaysAllow"
          (Flags.lookup "kube-apiserver" "--authorization-mode" world.disk)
        kubeletFlags := kubeletFlags
        hostnameOverride := override
        credentials := credentials }) := by
  unfold complete finish
  simp only [bind_assoc]
  refine congrArg (bind _) (funext fun fresh => congrArg (bind _) (funext fun callbackToken =>
    congrArg (bind _) (funext fun authority => congrArg (bind _) (funext fun kubeletFlags =>
      congrArg (bind _) (funext fun world => congrArg (bind _) (funext fun _ =>
        congrArg (bind _) (funext fun _ => ?_)))))))
  split <;> rfl

theorem complete_hands_over
    (ran : (complete surroundings protocol request remote override admitted).run before =
      (.ok response, after)) :
    ∃ called : World, HandsOver surroundings response before.disk called.disk ∧
      (finish surroundings protocol request remote admitted).run called =
        (.ok response.credentials, after) := by
  rw [complete_eq] at ran
  obtain ⟨_, _, drew, ran⟩ := bind_ok ran
  cases drew
  obtain ⟨callbackToken, called, owned, ran⟩ := bind_ok ran
  obtain ⟨owned, _⟩ := onDisk_ran (adapt_ok owned)
  obtain ⟨authority, _, readAuthority, ran⟩ := bind_ok ran
  obtain ⟨same, readAuthority⟩ := onState_ok (Disk.readWhole_within _) readAuthority
  rw [same] at ran
  obtain ⟨flags, _, readFlags, ran⟩ := bind_ok ran
  obtain ⟨same, readFlags⟩ := onState_ok (Disk.readWhole_within _) readFlags
  rw [same] at ran
  obtain ⟨_, _, fetched, ran⟩ := bind_ok ran
  cases fetched
  obtain ⟨credentials, _, finished, ran⟩ := bind_ok ran
  cases ran
  exact ⟨called,
    ⟨⟨before.drawn, owned⟩, Disk.readWhole_ok readAuthority, Disk.readWhole_ok readFlags⟩,
    finished⟩

/-! ## What a member is handed over -/

/-- The files that a join may still write when the response lacks only the credentials of a
member. -/
def finishFootprint : List (List String) :=
  [Layout.networkManifest.names, Layout.networkManifest.temporary, Layout.noReissueMarker.names]

/-- Only these files change, and the API server keeps its etcd endpoints. -/
structure Finishes (before after : World) : Prop where
  changes : Disk.ChangesOnly finishFootprint before.disk after.disk
  servers : etcdServers after.disk = etcdServers before.disk

instance : Std.Refl Finishes :=
  ⟨fun _ => ⟨Disk.ChangesOnly.refl _ _, rfl⟩⟩

instance : Trans Finishes Finishes Finishes :=
  ⟨fun first second =>
    ⟨first.changes.trans second.changes, second.servers.trans first.servers⟩⟩

/-- The data directory stays as it is when a manifest is applied. -/
def AppliesElsewhere (surroundings : Surroundings) : Prop :=
  ∀ manifest world, ((surroundings.apply manifest).run world).2.disk = world.disk

theorem onDisk_finishes {ε α : Type} {step : Disk.Step ε α}
    (changes : Within (Disk.ChangesOnly finishFootprint) step)
    (servers : Within (fun before after => etcdServers after = etcdServers before) step) :
    Within Finishes (onDisk step) :=
  fun world => ⟨changes world.disk, servers world.disk⟩

theorem finishes_of_disk {before after : World} (same : after.disk = before.disk) :
    Finishes before after :=
  ⟨same ▸ Disk.ChangesOnly.refl _ _, congrArg etcdServers same⟩

theorem patchManifest_finishes (elsewhere : AppliesElsewhere surroundings) (host : String)
    (apply : Bool) : Within Finishes (patchManifest surroundings host apply) := by
  have patching : Within Finishes (onDisk (Autodetection.patchFile host)) :=
    onDisk_finishes (within_mono (Autodetection.patchFile_within host) fun _ _ changes =>
      changes.mono (by simp [finishFootprint])) (Autodetection.patchFile_lookup host _)
  refine within_bind patching fun changed => ?_
  dsimp only
  split
  · refine within_bind within_get fun world => within_bind (within_tolerate ?_) fun _ =>
      within_pure changed
    exact within_bind (within_modify fun _ => finishes_of_disk rfl) fun _ world =>
      finishes_of_disk (elsewhere _ world)
  · exact within_pure changed

theorem markNoReissue_finishes : Within Finishes (onDisk NodeState.markNoReissue) := by
  have marking : Within (Disk.ChangesOnly [Layout.noReissueMarker.names])
      NodeState.markNoReissue :=
    Disk.touch_within List.mem_cons_self
  refine onDisk_finishes (within_mono marking fun _ _ changes =>
    changes.mono (by simp [finishFootprint])) (within_mono marking fun _ _ changes => ?_)
  exact Flags.lookup_elsewhere changes _ _ (by decide)

/-- A member's keys are read when everything is written. -/
theorem finish_member {credentials : Credentials} (elsewhere : AppliesElsewhere surroundings)
    (isMember : request.worker = false)
    (ran : (finish surroundings protocol request remote admitted).run before =
      (.ok credentials, after)) :
    Finishes before after ∧
      ∃ member, credentials = .member member ∧
        MemberReceives protocol admitted after.disk member := by
  obtain ⟨_, patched, patching, ran⟩ := bind_ok ran
  obtain ⟨_, marked, marking, ran⟩ := bind_ok ran
  rw [if_neg (by simp [isMember])] at ran
  have toPatched : Finishes before patched :=
    (within_tolerate (patchManifest_finishes elsewhere _ _)).reaches patching
  have toMarked : Finishes patched marked :=
    (within_tolerate markNoReissue_finishes).reaches marking
  have still : marked = after := (memberCredentials_within protocol admitted).reaches ran
  exact ⟨still ▸ Trans.trans toPatched toMarked, memberCredentials_ok ran⟩

/-- What a join hands over to a member once it is admitted, the answering node keeps itself. -/
theorem complete_member (elsewhere : AppliesElsewhere surroundings)
    (isMember : request.worker = false)
    (ran : (complete surroundings protocol request remote override admitted).run before =
      (.ok response, after)) :
    (∃ member, response.credentials = .member member ∧
        MemberReceives protocol admitted after.disk member) ∧
      after.disk.textOf Layout.authorityCertificate = .ok response.authority ∧
        etcdServers after.disk = etcdServers before.disk ∧
          (Text.Solid response.callbackToken.toList →
            Tokens.OwnToken after.disk response.callbackToken ∧
              ((∃ drawn, response.callbackToken = surroundings.token drawn) ∨
                response.callbackToken ≠ "")) := by
  obtain ⟨called, handed, finished⟩ := complete_hands_over ran
  obtain ⟨finishes, receives⟩ := finish_member elsewhere isMember finished
  obtain ⟨drawn, owned⟩ := handed.callback
  have owning := (Tokens.ownCallback_within _).reaches owned
  refine ⟨receives, finishes.changes.textOf_ok (by decide) handed.authority, ?_, fun solid => ?_⟩
  · exact finishes.servers.trans (Flags.lookup_elsewhere owning _ _ (by decide))
  · obtain ⟨⟨text, read, trimmed⟩, fresh⟩ := Tokens.ownCallback_ok solid owned
    exact ⟨⟨text, finishes.changes.textOf_ok (by decide) read, trimmed⟩,
      fresh.imp_left fun isFresh => ⟨drawn, isFresh⟩⟩

end Completion

/-! ## A node of an etcd cluster -/

/-- A node of an etcd cluster with these flags of the kubelet and of the API server. -/
def etcdNode (kubeletFlags serverFlags : String) : World where
  disk :=
    { Disk.empty "/data" with
      entries :=
        [(["credentials"], .directory),
          (["credentials", "cluster-tokens.txt"], .file "abc\n".toUTF8 false),
          (["credentials", "known_tokens.csv"], .file "root,admin,admin\n".toUTF8 true),
          (["certs"], .directory), (["certs", "ca.crt"], .file "CA CERT".toUTF8 false),
          (["certs", "ca.key"], .file "CA KEY".toUTF8 true),
          (["certs", "serviceaccount.key"], .file "SA KEY".toUTF8 true),
          (["certs", "server.crt"], .file "CERT".toUTF8 false),
          (["certs", "server.key"], .file "KEY".toUTF8 true),
          (["args"], .directory), (["args", "kubelet"], .file kubeletFlags.toUTF8 false),
          (["args", "kube-apiserver"], .file serverFlags.toUTF8 false),
          (["args", "cluster-agent"], .file "--bind=0.0.0.0:25001\n".toUTF8 false)] }
  clock := 1000
  pending := []
  calls := []
  drawn := 0
  shutdownAt := none

def etcdResponse (kubeletFlags : String) (override servers : Option String) : Response where
  authority := "CA CERT"
  callbackToken := "token-0"
  apiPort := "16443"
  authorizationMode := "AlwaysAllow"
  kubeletFlags := kubeletFlags
  hostnameOverride := override
  credentials := .member
    { voters := none
      serviceAccountKey := "SA KEY"
      adminToken := "root"
      authorityKey := "CA KEY"
      clusterCertificate := "CERT"
      clusterKey := "KEY"
      etcdServers := servers }

end Join
end ClusterAgent
