import ClusterAgent.Proofs.Client.Credentials
import ClusterAgent.Proofs.Client.Responses
import ClusterAgent.Proofs.Client.WorkerInstall
import ClusterAgent.Proofs.Node.Repeating
namespace ClusterAgent

open Disk Running

namespace Join

/-! ## What a join can put into a bundle -/

section Handing

variable {surroundings : Surroundings} {patience : Patience} {protocol : Protocol}
  {request : Request} {remote : IpAddress} {admitted : Admitted} {before after : World}
  {server served : World} {response : Response}

/-- The etcd endpoints that a node learns of are the value of a flag. -/
theorem solid_etcdServers
    (ran : (admitBy surroundings patience protocol request remote).run before =
      (.ok admitted, after)) :
    ∀ servers, admitted.etcdServers = some servers → Text.Solid servers.toList := by
  intro servers given
  by_cases isStore : protocol = .replicatedStore
  · subst isStore
    rw [admitToStore_etcdServers ran] at given
    cases given
  · rw [(admitBy_etcd isStore ran).1, nonempty?] at given
    split at given
    · cases given
    · cases given
      exact Flags.solid_lookup _ _ _

/-- A response can be written into files that have lines: the administrator's token stands in one
column of a row, and the etcd endpoints on one line of flags. -/
structure OnLines (response : Response) : Prop where
  admin : ∀ token, (Bundle.ofResponse response).adminToken = some token →
    NodeState.IsAdminToken token.toList
  servers : ∀ servers, (Bundle.ofResponse response).etcdServers = some servers →
    Text.Solid servers.toList

theorem onLines_of_join
    (ran : (join surroundings patience protocol request).run server = (.ok response, served)) :
    OnLines response := by
  obtain ⟨_, _, granted⟩ := join_ok ran
  obtain ⟨_, _, admitted, _, _, _, admission, completed⟩ := grant_ok granted
  have holds := Bundle.holds_ofResponse response
  rcases (complete_ok completed).2 with ⟨_, nodes, isWorker⟩ | ⟨_, member, isMember, receives⟩
  · rw [isWorker] at holds
    obtain ⟨_, _, _, noToken, _, _, _, noServers⟩ := holds
    refine ⟨fun token given => ?_, fun servers given => ?_⟩
    · rw [noToken] at given
      cases given
    · rw [noServers] at given
      cases given
  · rw [isMember] at holds
    obtain ⟨_, _, adminToken, _, _, _, etcdServers, _⟩ := holds
    refine ⟨fun token given => ?_, fun servers given => ?_⟩
    · rw [adminToken] at given
      cases given
      obtain ⟨_, _, found⟩ := NodeState.adminToken_ok receives.adminToken
      exact NodeState.isAdminToken_of_adminTokenIn found
    · rw [etcdServers, receives.etcdServers] at given
      exact solid_etcdServers admission servers given

end Handing

end Join

namespace Install

/-! ## The flags of the node -/

def certify (bundle : Bundle) : Step Error Unit := do
  let disk ← get
  ExceptT.adapt (fun cause => Error.file (.writing (disk.shown Layout.authorityCertificate) cause))
    (writeAtomic Layout.authorityCertificate bundle.authority.toUTF8)

def flagNode (bundle : Bundle) : Step Error Unit := do
  ExceptT.adapt Error.kubeletFlags
    (writeAtomic (Layout.flags "kubelet") bundle.kubeletFlags.toUTF8)
  nameNode bundle

theorem handOver_eq (bundle : Bundle) :
    handOver bundle = (do
      certify bundle
      flagNode bundle) := by
  simp only [handOver, certify, flagNode, bind_assoc]

section Flagging

variable {bundle : Bundle} {before after : Disk} {text : String}

/-- A node gets its name where its flags can be read and replaced, and they can be replaced
again. -/
theorem nameNode_renews (renewable : Renewable (Layout.flags "kubelet") before)
    (ran : (nameNode bundle).run before = (.ok (), after)) :
    Renewable (Layout.flags "kubelet") after ∧
      (bundle.hostnameOverride.isSome →
        before.refuses .read (Layout.flags "kubelet").names = none) := by
  unfold nameNode at ran
  split at ran
  · obtain ⟨allowed, wrote⟩ := Flags.update_writes rfl (adapt_ok ran)
    exact ⟨renewable_of_writeAtomic wrote, fun _ => allowed⟩
  · rename_i notGiven
    cases ran
    refine ⟨renewable, fun given => ?_⟩
    rw [notGiven] at given
    cases given

theorem nameNode_runs (renewable : Renewable (Layout.flags "kubelet") before)
    (stored : before.Stores (Layout.flags "kubelet") text)
    (reads : bundle.hostnameOverride.isSome →
      before.refuses .read (Layout.flags "kubelet").names = none) :
    ∃ after, (nameNode bundle).run before = (.ok (), after) := by
  unfold nameNode
  split
  · rename_i host given
    have read := stored.textOf renewable.plain renewable.nonempty (reads (by simp [given]))
    obtain ⟨after, ran⟩ := Flags.update_runs renewable.accepts (Or.inr ⟨text, read⟩)
      [("--hostname-override", host)] []
    refine ⟨after, ?_⟩
    rw [setFlag, run_adapt, ran]
    rfl
  · exact ⟨before, rfl⟩

/-- The flags are written as they came before the name is set in them, so what the file holds
in between does not matter. -/
theorem repeatable_flagNode (bundle : Bundle) :
    Repeatable [(Layout.flags "kubelet").names, (Layout.flags "kubelet").temporary]
      (flagNode bundle) := by
  have within : Within (ChangesOnly [(Layout.flags "kubelet").names,
      (Layout.flags "kubelet").temporary]) (flagNode bundle) :=
    within_bind (within_adapt (writeAtomic_within _ (by simp) (by simp))) fun _ =>
      nameNode_within bundle
  refine repeatable_of_holding within fun {before after} _ ran => ?_
  obtain ⟨_, flagged, wrote, named⟩ := bind_ok ran
  have written := adapt_ok wrote
  have naming := (nameNode_within bundle).reaches named
  obtain ⟨renewable, reads⟩ := nameNode_renews (renewable_of_writeAtomic written) named
  refine ⟨kubeletText bundle, renewable, nameNode_ok (writeAtomic_stores written) named,
    fun disk holding => ?_⟩
  obtain ⟨_, flaggedAgain, wroteAgain, renewableAgain⟩ :=
    writeAtomic_renews _ bundle.kubeletFlags disk holding.renewable
  have flagging : ChangesOnly [(Layout.flags "kubelet").names,
      (Layout.flags "kubelet").temporary] disk flaggedAgain :=
    (writeAtomic_within _ (by simp) (by simp)).reaches wroteAgain
  have stored := writeAtomic_stores wroteAgain
  have readsAgain : bundle.hostnameOverride.isSome →
      flaggedAgain.refuses .read (Layout.flags "kubelet").names = none := by
    rw [flagging.refuses, holding.refuses, naming.refuses]
    exact reads
  obtain ⟨again, namedAgain⟩ := nameNode_runs renewableAgain stored readsAgain
  refine ⟨again, ?_, (nameNode_renews renewableAgain namedAgain).1,
    nameNode_ok stored namedAgain⟩
  rw [flagNode, run_bind, run_adapt, wroteAgain]
  exact namedAgain

end Flagging

/-! ## Installations that can be repeated -/

section Repeating

variable {response : Join.Response} {protocol : Join.Protocol}

theorem repeatable_common (peer : String) (bundle : Bundle) :
    Repeatable (handedFootprint ++ callbackFootprint) (common peer bundle) := by
  have certify : Repeatable [Layout.authorityCertificate.names,
      Layout.authorityCertificate.temporary] (certify bundle) :=
    repeatable_reported (repeatable_writeAtomic _ _)
  have keepCallback : Repeatable callbackFootprint (keepCallback peer bundle) :=
    repeatable_adapt (Tokens.repeatable_storeCallback _ _)
  rw [common_eq, handOver_eq]
  exact (certify.bind (repeatable_flagNode bundle) (by decide)).bind keepCallback (by decide)

theorem repeatable_secret (place : Place) (text : String) :
    Repeatable [place.names, place.temporary] (secret place text) :=
  repeatable_adapt (repeatable_writeSecret place text)

theorem repeatable_installKeys (protocol : Join.Protocol) (keys : Keys) :
    Repeatable (keyFootprint protocol) (installKeys protocol keys) := by
  have pair := (repeatable_secret (keyPairPlaces protocol).1 keys.certificate).bind
    (repeatable_secret (keyPairPlaces protocol).2 keys.key) (by cases protocol <;> decide)
  have account := (repeatable_secret Layout.serviceAccountKey keys.serviceAccountKey).bind pair
    (by cases protocol <;> decide)
  exact (repeatable_secret Layout.authorityKey keys.authorityKey).bind account
    (by cases protocol <;> decide)

theorem repeatable_setFlag {service flag value : String} (isFlag : Flags.IsFlag flag.toList)
    (solid : Text.Solid value.toList) :
    Repeatable [(Layout.flags service).names, (Layout.flags service).temporary]
      (setFlag service flag value) := by
  have onLines : Flags.Updates.OnLines [(flag, value)] := by
    intro update member
    rw [List.mem_singleton.mp member]
    exact ⟨isFlag, solid.feed_not_mem⟩
  exact repeatable_adapt ((Flags.changesLines_update service rfl).repeatable
    (Flags.settles_change (List.pairwise_singleton _ _) onLines))

theorem repeatable_setAdmin (onLines : Join.OnLines response) :
    Repeatable adminFootprint (setAdmin (.ofResponse response)) := by
  unfold setAdmin
  split
  · rename_i token given
    exact repeatable_adapt ((NodeState.changesLines_setAdminToken token).repeatable
      (NodeState.settles_replaceAdminRow (onLines.admin token given)))
  · exact repeatable_pure.mono (List.nil_subset _)

theorem repeatable_setServers (onLines : Join.OnLines response) :
    Repeatable [(Layout.flags "kube-apiserver").names, (Layout.flags "kube-apiserver").temporary]
      (setServers (.ofResponse response)) := by
  unfold setServers
  split
  · rename_i servers given
    exact repeatable_setFlag (by decide) (onLines.servers servers given)
  · exact repeatable_pure.mono (List.nil_subset _)

theorem repeatable_installStore (onLines : Join.OnLines response) (protocol : Join.Protocol) :
    Repeatable (storeFootprint protocol) (installStore protocol (.ofResponse response)) := by
  cases protocol with
  | replicatedStore => exact repeatable_adapt (repeatable_touch rfl (by decide))
  | legacy => exact repeatable_setServers onLines
  | etcdHa => exact repeatable_setServers onLines

theorem repeatable_controlPlane (onLines : Join.OnLines response) (protocol : Join.Protocol)
    (peer : String) :
    Repeatable (memberFootprint protocol)
      (controlPlane protocol peer (.ofResponse response)) := by
  rw [controlPlane_eq]
  split
  · rename_i keys _
    have store := (repeatable_setAdmin onLines).bind (repeatable_installStore onLines protocol)
      (by cases protocol <;> decide)
    have member := (repeatable_installKeys protocol keys).bind store
      (by cases protocol <;> decide)
    rw [← List.append_assoc] at member
    exact member
  · exact repeatable_throw _ _

/-- The files that a worker or a member may write. -/
def installFootprint (protocol : Join.Protocol) (worker : Bool) : List (List String) :=
  handedFootprint ++ callbackFootprint ++
    if worker then [Layout.workerTokens.names, Layout.workerTokens.temporary]
    else memberFootprint protocol

theorem repeatable_install (onLines : Join.OnLines response) (protocol : Join.Protocol)
    (peer token : String) (worker : Bool) :
    Repeatable (installFootprint protocol worker)
      (install protocol peer token worker (.ofResponse response)) := by
  have shared := repeatable_common peer (.ofResponse response)
  cases worker with
  | true =>
      have working := shared.bind
        (repeatable_secret Layout.workerTokens (workerTokens token)) (by decide)
      exact working
  | false =>
      have member := shared.bind (repeatable_controlPlane onLines protocol peer)
        (by cases protocol <;> decide)
      exact member

end Repeating

section Reinstalling

variable {surroundings : Surroundings} {patience : Join.Patience} {api protocol : Join.Protocol}
  {request : Join.Request} {server served : World} {response : Join.Response} {bundle : Bundle}
  {peer token : String} {worker : Bool} {node after : Disk}

/-- What a join handed over can be installed again, and then every file keeps its content, octet
for octet. -/
theorem reinstall_changes_nothing
    (joined : (Join.join surroundings patience api request).run server = (.ok response, served))
    (decoded : Bundle.decode response.toJson.render = .ok bundle)
    (free : ∀ names, node.ReturnFreeAt names)
    (installed : (install protocol peer token worker bundle).run node = (.ok (), after)) :
    ∃ again, (install protocol peer token worker bundle).run after = (.ok (), again) ∧
      ∀ names, again.content? names = after.content? names := by
  rw [Bundle.decode_response] at decoded
  cases decoded
  have repeatable := repeatable_install (Join.onLines_of_join joined) protocol peer token worker
  exact repeatable.again (fun names _ => free names) installed

end Reinstalling

/-! ## A node with odd files -/

/-- The node has two rows of the administrator, lines for the answering node and for another one,
and a flag that stands there twice; no file ends with the end of a line. -/
def unevenNode : Disk :=
  { Disk.empty "/data" with
    entries :=
      [(["credentials"], .directory), (["args"], .directory),
        (["credentials", "known_tokens.csv"],
          .file "old,admin,admin\nabc,kubelet,kubelet\n odd , admin \nlast".toUTF8 false),
        (["credentials", "callback-tokens.txt"],
          .file "10.0.0.9:25000 other\n\n 10.0.0.1:25001\told x".toUTF8 false),
        (["args", "kube-apiserver"],
          .file "# own\n  --etcd-servers a b\n--v=2\n--etcd-servers=x".toUTF8 false)] }

theorem unevenNode_returnFree : ∀ names, unevenNode.ReturnFreeAt names :=
  returnFreeAt_of_entries (by decide +kernel)

def unevenInstalled : Disk :=
  ((install .etcdHa "10.0.0.1:25001" "abc" false (.ofResponse endpointResponse)).run
    unevenNode).2

theorem unevenNode_installs :
    (install .etcdHa "10.0.0.1:25001" "abc" false (.ofResponse endpointResponse)).run
      unevenNode = (.ok (), unevenInstalled) :=
  run_of_toOption (by decide +kernel)

theorem unevenNode_reinstalls :
    unevenInstalled.content? Layout.callbackTokens.names =
        some "10.0.0.9:25000 other\n\n10.0.0.1:25001 token-0\n".toUTF8 ∧
      ∃ again, (install .etcdHa "10.0.0.1:25001" "abc" false (.ofResponse endpointResponse)).run
          unevenInstalled = (.ok (), again) ∧
        ∀ names, again.content? names = unevenInstalled.content? names :=
  ⟨by decide +kernel, reinstall_changes_nothing endpointNode_admits
    (Bundle.decode_response endpointResponse) unevenNode_returnFree unevenNode_installs⟩

end Install
end ClusterAgent
