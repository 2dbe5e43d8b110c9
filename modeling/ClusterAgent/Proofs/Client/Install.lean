import ClusterAgent.Client.Install
import ClusterAgent.Proofs.Node.AdminToken
import ClusterAgent.Proofs.Node.Flags
import ClusterAgent.Proofs.Node.State
import ClusterAgent.Proofs.Tokens.Callbacks
namespace ClusterAgent
namespace Install

open Disk Running

/-! ## The parts of an installation -/

def nameNode (bundle : Bundle) : Step Error Unit :=
  match bundle.hostnameOverride with
  | some host => setFlag "kubelet" "--hostname-override" host
  | none => pure ()

/-- The certificate of the authority and the flags of the node, which are written first. -/
def handOver (bundle : Bundle) : Step Error Unit := do
  let disk ← get
  ExceptT.adapt (fun cause => Error.file (.writing (disk.shown Layout.authorityCertificate) cause))
    (writeAtomic Layout.authorityCertificate bundle.authority.toUTF8)
  ExceptT.adapt Error.kubeletFlags
    (writeAtomic (Layout.flags "kubelet") bundle.kubeletFlags.toUTF8)
  nameNode bundle

def keepCallback (peer : String) (bundle : Bundle) : Step Error Unit :=
  ExceptT.adapt Error.callback
    (Tokens.storeCallback (Peer.authority peer) bundle.callbackToken)

theorem common_eq (peer : String) (bundle : Bundle) :
    common peer bundle = (do
      handOver bundle
      keepCallback peer bundle) := by
  simp only [handOver, bind_assoc]
  unfold common nameNode keepCallback
  cases bundle.hostnameOverride <;> rfl

/-- The key of the authority and the other keys that a member of the control plane needs. -/
structure Keys where
  authorityKey : String
  serviceAccountKey : String
  certificate : String
  key : String

def keysOf (bundle : Bundle) : Option Keys :=
  match bundle.authorityKey, bundle.serviceAccountKey, bundle.clusterCertificate,
      bundle.clusterKey with
  | some authorityKey, some serviceAccountKey, some certificate, some key =>
      some ⟨authorityKey, serviceAccountKey, certificate, key⟩
  | _, _, _, _ => none

def setAdmin (bundle : Bundle) : Step Error Unit :=
  match bundle.adminToken with
  | some token => ExceptT.adapt Error.file (NodeState.setAdminToken token)
  | none => pure ()

def installKeys (protocol : Join.Protocol) (keys : Keys) : Step Error Unit := do
  secret Layout.authorityKey keys.authorityKey
  secret Layout.serviceAccountKey keys.serviceAccountKey
  secret (keyPairPlaces protocol).1 keys.certificate
  secret (keyPairPlaces protocol).2 keys.key

def setServers (bundle : Bundle) : Step Error Unit :=
  match bundle.etcdServers with
  | some servers => setFlag "kube-apiserver" "--etcd-servers" servers
  | none => pure ()

theorem installStore_eq {protocol : Join.Protocol} (notStore : protocol ≠ .replicatedStore)
    (bundle : Bundle) : installStore protocol bundle = setServers bundle := by
  cases protocol with
  | replicatedStore => exact absurd rfl notStore
  | legacy => rfl
  | etcdHa => rfl

def withKeys (protocol : Join.Protocol) (bundle : Bundle) (keys : Keys) : Step Error Unit := do
  installKeys protocol keys
  setAdmin bundle
  installStore protocol bundle

theorem controlPlane_eq (protocol : Join.Protocol) (peer : String) (bundle : Bundle) :
    controlPlane protocol peer bundle =
      match keysOf bundle with
      | some keys => withKeys protocol bundle keys
      | none => throw (.incomplete peer) := by
  unfold controlPlane keysOf
  simp only [withKeys, installKeys, bind_assoc]
  unfold setAdmin
  rcases bundle.authorityKey with _ | authorityKey
  · rfl
  rcases bundle.serviceAccountKey with _ | serviceAccountKey
  · rfl
  rcases bundle.clusterCertificate with _ | certificate
  · rfl
  rcases bundle.clusterKey with _ | key
  · rfl
  rcases bundle.adminToken with _ | token
  · rfl
  · rfl

/-! ## What an installation may write -/

def handedFootprint : List (List String) :=
  [Layout.authorityCertificate.names, Layout.authorityCertificate.temporary,
    (Layout.flags "kubelet").names, (Layout.flags "kubelet").temporary]

def callbackFootprint : List (List String) :=
  [Layout.tokensLock.names, Layout.callbackTokens.names, Layout.callbackTokens.temporary]

def storeFootprint : Join.Protocol → List (List String)
  | .replicatedStore => [Layout.replicatedStoreMarker.names]
  | _ => [(Layout.flags "kube-apiserver").names, (Layout.flags "kube-apiserver").temporary]

def keyFootprint (protocol : Join.Protocol) : List (List String) :=
  [Layout.authorityKey.names, Layout.authorityKey.temporary, Layout.serviceAccountKey.names,
    Layout.serviceAccountKey.temporary, (keyPairPlaces protocol).1.names,
    (keyPairPlaces protocol).1.temporary, (keyPairPlaces protocol).2.names,
    (keyPairPlaces protocol).2.temporary]

def adminFootprint : List (List String) :=
  [Layout.knownTokens.names, Layout.knownTokens.temporary]

/-- The files that only members of the control plane get. -/
def memberFootprint (protocol : Join.Protocol) : List (List String) :=
  keyFootprint protocol ++ adminFootprint ++ storeFootprint protocol

section Writing

variable {touched : List (List String)} {protocol : Join.Protocol} {bundle : Bundle}

theorem secret_within {place : Place} (text : String) (member : place.names ∈ touched)
    (temporaryMember : place.temporary ∈ touched) :
    Within (ChangesOnly touched) (secret place text) :=
  within_adapt (writeSecret_within _ member temporaryMember)

theorem setFlag_within {service flag value : String}
    (member : (Layout.flags service).names ∈ touched)
    (temporaryMember : (Layout.flags service).temporary ∈ touched) :
    Within (ChangesOnly touched) (setFlag service flag value) :=
  within_adapt (Flags.update_within member temporaryMember)

theorem nameNode_within (bundle : Bundle) :
    Within (ChangesOnly [(Layout.flags "kubelet").names, (Layout.flags "kubelet").temporary])
      (nameNode bundle) := by
  unfold nameNode
  split
  · exact setFlag_within (by simp) (by simp)
  · exact within_pure ()

theorem handOver_within (bundle : Bundle) :
    Within (ChangesOnly handedFootprint) (handOver bundle) := by
  refine within_bind within_get fun _ =>
    within_bind (within_adapt (writeAtomic_within _ ?_ ?_)) fun _ =>
      within_bind (within_adapt (writeAtomic_within _ ?_ ?_)) fun _ =>
        within_mono (nameNode_within bundle) fun _ _ changes => changes.mono ?_
  all_goals simp [handedFootprint]

theorem keepCallback_within (peer : String) (bundle : Bundle) :
    Within (ChangesOnly callbackFootprint) (keepCallback peer bundle) :=
  within_adapt (Tokens.storeCallback_within _ _)

theorem common_within (peer : String) (bundle : Bundle) :
    Within (ChangesOnly (handedFootprint ++ callbackFootprint)) (common peer bundle) := by
  rw [common_eq]
  exact within_bind (within_mono (handOver_within bundle) fun _ _ changes =>
      changes.mono (List.subset_append_left _ _)) fun _ =>
    within_mono (keepCallback_within peer bundle) fun _ _ changes =>
      changes.mono (List.subset_append_right _ _)

theorem installKeys_within (protocol : Join.Protocol) (keys : Keys) :
    Within (ChangesOnly (keyFootprint protocol)) (installKeys protocol keys) :=
  within_bind (secret_within _ (by simp [keyFootprint]) (by simp [keyFootprint])) fun _ =>
    within_bind (secret_within _ (by simp [keyFootprint]) (by simp [keyFootprint])) fun _ =>
      within_bind (secret_within _ (by simp [keyFootprint]) (by simp [keyFootprint])) fun _ =>
        secret_within _ (by simp [keyFootprint]) (by simp [keyFootprint])

theorem setAdmin_within (bundle : Bundle) :
    Within (ChangesOnly adminFootprint) (setAdmin bundle) := by
  unfold setAdmin
  split
  · exact within_adapt (NodeState.setAdminToken_within _)
  · exact within_pure ()

theorem setServers_within (bundle : Bundle) :
    Within (ChangesOnly [(Layout.flags "kube-apiserver").names,
      (Layout.flags "kube-apiserver").temporary]) (setServers bundle) := by
  unfold setServers
  split
  · exact setFlag_within (by simp) (by simp)
  · exact within_pure ()

theorem installStore_within (protocol : Join.Protocol) (bundle : Bundle) :
    Within (ChangesOnly (storeFootprint protocol)) (installStore protocol bundle) := by
  cases protocol with
  | replicatedStore => exact within_adapt (touch_within List.mem_cons_self)
  | legacy => exact setServers_within bundle
  | etcdHa => exact setServers_within bundle

theorem withKeys_within (keys : Keys) :
    Within (ChangesOnly (memberFootprint protocol)) (withKeys protocol bundle keys) := by
  refine within_bind (within_mono (installKeys_within protocol keys) fun _ _ changes => ?_) fun _ =>
    within_bind (within_mono (setAdmin_within bundle) fun _ _ changes => ?_) fun _ =>
      within_mono (installStore_within protocol bundle) fun _ _ changes => ?_
  · exact changes.mono (by simp [memberFootprint])
  · exact changes.mono (by simp [memberFootprint])
  · exact changes.mono (by simp [memberFootprint])

theorem controlPlane_within (protocol : Join.Protocol) (peer : String) (bundle : Bundle) :
    Within (ChangesOnly (memberFootprint protocol)) (controlPlane protocol peer bundle) := by
  rw [controlPlane_eq]
  split
  · exact withKeys_within _
  · exact within_throw _

end Writing

/-! ## What an installation achieves -/

/-- The flags that the joined node starts with: those of the answering node, with the name that
the answer gives to the joined node. -/
def kubeletText (bundle : Bundle) : String :=
  match bundle.hostnameOverride with
  | none => bundle.kubeletFlags
  | some host =>
      String.ofList (Text.unlines
        (Flags.change [("--hostname-override", host)] [] (Text.lines bundle.kubeletFlags.toList)))

section Handing

variable {before after : Disk} {peer : String} {bundle : Bundle}

theorem nameNode_ok (stored : before.Stores (Layout.flags "kubelet") bundle.kubeletFlags)
    (ran : (nameNode bundle).run before = (.ok (), after)) :
    after.Stores (Layout.flags "kubelet") (kubeletText bundle) := by
  unfold nameNode at ran
  rw [kubeletText]
  split at ran
  · rename_i host given
    obtain ⟨allowed, _, changed⟩ := Flags.update_ok rfl (adapt_ok ran)
    have read := stored.textOf rfl (by decide) allowed
    rw [Flags.contentOf, read] at changed
    simpa only [given] using changed
  · rename_i notGiven
    cases ran
    simpa only [notGiven] using stored

structure Handed (bundle : Bundle) (disk : Disk) : Prop where
  authority : disk.Stores Layout.authorityCertificate bundle.authority
  flags : disk.Stores (Layout.flags "kubelet") (kubeletText bundle)

theorem Handed.of_changes {touched : List (List String)} (handed : Handed bundle before)
    (changes : ChangesOnly touched before after)
    (clear : Clear touched Layout.authorityCertificate)
    (clearFlags : Clear touched (Layout.flags "kubelet")) : Handed bundle after :=
  ⟨changes.stores clear handed.authority, changes.stores clearFlags handed.flags⟩

/-- The certificate and the flags are there before the node gets its name. -/
theorem handOver_parts (ran : (handOver bundle).run before = (.ok (), after)) :
    ∃ flagged, ChangesOnly handedFootprint before flagged ∧
      flagged.Stores Layout.authorityCertificate bundle.authority ∧
        flagged.Stores (Layout.flags "kubelet") bundle.kubeletFlags ∧
          (nameNode bundle).run flagged = (.ok (), after) := by
  obtain ⟨_, _, fetched, ran⟩ := bind_ok ran
  cases fetched
  obtain ⟨_, certified, wroteCertificate, ran⟩ := bind_ok ran
  obtain ⟨_, flagged, wroteFlags, naming⟩ := bind_ok ran
  have certifying : ChangesOnly handedFootprint before certified :=
    (writeAtomic_within _ (by simp [handedFootprint]) (by simp [handedFootprint])).reaches
      (adapt_ok wroteCertificate)
  have flagging : ChangesOnly
      [(Layout.flags "kubelet").names, (Layout.flags "kubelet").temporary] certified flagged :=
    (writeAtomic_within _ (by simp) (by simp)).reaches (adapt_ok wroteFlags)
  have certificate : certified.Stores Layout.authorityCertificate bundle.authority :=
    writeAtomic_stores (adapt_ok wroteCertificate)
  exact ⟨flagged, certifying.trans (flagging.mono (by simp [handedFootprint])),
    flagging.stores (by decide) certificate, writeAtomic_stores (adapt_ok wroteFlags), naming⟩

theorem handOver_ok (ran : (handOver bundle).run before = (.ok (), after)) :
    Handed bundle after := by
  obtain ⟨flagged, _, certificate, flags, named⟩ := handOver_parts ran
  have naming : ChangesOnly
      [(Layout.flags "kubelet").names, (Layout.flags "kubelet").temporary] flagged after :=
    (nameNode_within bundle).reaches named
  exact ⟨naming.stores (by decide) certificate, nameNode_ok flags named⟩

theorem common_ok (ran : (common peer bundle).run before = (.ok (), after)) :
    Handed bundle after ∧
      Tokens.callbackIn (Peer.authority peer) after = some bundle.callbackToken := by
  rw [common_eq] at ran
  obtain ⟨_, middle, handed, ran⟩ := bind_ok ran
  have changes : ChangesOnly callbackFootprint middle after :=
    (keepCallback_within peer bundle).reaches ran
  exact ⟨(handOver_ok handed).of_changes changes (by decide) (by decide),
    Tokens.callbackIn_stored (adapt_ok ran)⟩

end Handing

section Keys

variable {protocol : Join.Protocol} {bundle : Bundle} {keys : Keys} {before after : Disk}

structure Keyed (protocol : Join.Protocol) (keys : Keys) (disk : Disk) : Prop where
  authorityKey : disk.Stores Layout.authorityKey keys.authorityKey
  serviceAccountKey : disk.Stores Layout.serviceAccountKey keys.serviceAccountKey
  certificate : disk.Stores (keyPairPlaces protocol).1 keys.certificate
  key : disk.Stores (keyPairPlaces protocol).2 keys.key

theorem secret_stores {place : Place} {text : String}
    (ran : (secret place text).run before = (.ok (), after)) : after.Stores place text :=
  writeSecret_stores (adapt_ok ran)

theorem secret_changes {place : Place} {text : String} {result : Except Error Unit}
    (ran : (secret place text).run before = (result, after)) :
    ChangesOnly [place.names, place.temporary] before after :=
  (secret_within text (by simp) (by simp)).reaches ran

theorem installKeys_ok (ran : (installKeys protocol keys).run before = (.ok (), after)) :
    Keyed protocol keys after := by
  obtain ⟨_, first, wroteAuthorityKey, ran⟩ := bind_ok ran
  obtain ⟨_, second, wroteServiceAccountKey, ran⟩ := bind_ok ran
  obtain ⟨_, third, wroteCertificate, wroteKey⟩ := bind_ok ran
  have toSecond := secret_changes wroteServiceAccountKey
  have toThird := secret_changes wroteCertificate
  have toEnd := secret_changes wroteKey
  -- Each key stays where it is while the ones after it are written.
  constructor
  · refine toEnd.stores ?_ (toThird.stores ?_ (toSecond.stores (by decide)
      (secret_stores wroteAuthorityKey)))
    all_goals cases protocol <;> decide
  · refine toEnd.stores ?_ (toThird.stores ?_ (secret_stores wroteServiceAccountKey))
    all_goals cases protocol <;> decide
  · refine toEnd.stores ?_ (secret_stores wroteCertificate)
    cases protocol <;> decide
  · exact secret_stores wroteKey

def keyPlaces (protocol : Join.Protocol) : List Place :=
  [Layout.authorityKey, Layout.serviceAccountKey, (keyPairPlaces protocol).1,
    (keyPairPlaces protocol).2]

theorem Keyed.of_changes {touched : List (List String)} (keyed : Keyed protocol keys before)
    (changes : ChangesOnly touched before after)
    (clear : ∀ place ∈ keyPlaces protocol, Clear touched place) : Keyed protocol keys after := by
  constructor
  · exact changes.stores (clear _ (by simp [keyPlaces])) keyed.authorityKey
  · exact changes.stores (clear _ (by simp [keyPlaces])) keyed.serviceAccountKey
  · exact changes.stores (clear _ (by simp [keyPlaces])) keyed.certificate
  · exact changes.stores (clear _ (by simp [keyPlaces])) keyed.key

theorem withKeys_ok (ran : (withKeys protocol bundle keys).run before = (.ok (), after)) :
    Keyed protocol keys after ∧
      ∃ keyed administered,
        ChangesOnly (keyFootprint protocol) before keyed ∧
          (setAdmin bundle).run keyed = (.ok (), administered) ∧
            (installStore protocol bundle).run administered = (.ok (), after) := by
  obtain ⟨_, keyed, wroteKeys, ran⟩ := bind_ok ran
  obtain ⟨_, administered, setToken, ran⟩ := bind_ok ran
  have toAdmin : ChangesOnly adminFootprint keyed administered :=
    (setAdmin_within bundle).reaches setToken
  have toStore : ChangesOnly (storeFootprint protocol) administered after :=
    (installStore_within protocol bundle).reaches ran
  refine ⟨?_, keyed, administered, (installKeys_within protocol keys).reaches wroteKeys,
    setToken, ran⟩
  refine ((installKeys_ok wroteKeys).of_changes toAdmin ?_).of_changes toStore ?_
  · cases protocol <;> decide
  · cases protocol <;> decide

theorem controlPlane_ok {peer : String}
    (ran : (controlPlane protocol peer bundle).run before = (.ok (), after)) :
    ∃ keys, keysOf bundle = some keys ∧
      (withKeys protocol bundle keys).run before = (.ok (), after) := by
  rw [controlPlane_eq] at ran
  split at ran
  · rename_i keys found
    exact ⟨keys, found, ran⟩
  · cases ran

end Keys

end Install
end ClusterAgent
