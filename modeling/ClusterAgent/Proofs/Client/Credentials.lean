import ClusterAgent.Proofs.Client.Backend
import ClusterAgent.Proofs.Client.Decoding
import ClusterAgent.Proofs.Client.Working
import ClusterAgent.Proofs.Join.Holdings
namespace ClusterAgent

open Disk Running

namespace Install

open Join

/-! ## What a response is to the node that installs it -/

section Giving

variable {protocol : Protocol} {response : Response} {holdings : Holdings}

def keysGiven (holdings : Holdings) : Keys where
  authorityKey := holdings.authorityKey
  serviceAccountKey := holdings.serviceAccountKey
  certificate := holdings.keyPair.certificate
  key := holdings.keyPair.key

theorem keysOf_given (gives : Gives protocol response holdings) :
    keysOf (Bundle.ofResponse response) = some (keysGiven holdings) := by
  obtain ⟨voters, given⟩ := gives.credentials
  rw [Bundle.ofResponse, given]
  rfl

theorem adminToken_given (gives : Gives protocol response holdings) :
    (Bundle.ofResponse response).adminToken = some holdings.adminToken := by
  obtain ⟨voters, given⟩ := gives.credentials
  rw [Bundle.ofResponse, given]

theorem etcdServers_given (gives : Gives protocol response holdings)
    (notStore : protocol ≠ .replicatedStore) :
    (Bundle.ofResponse response).etcdServers = nonempty? holdings.etcdServers := by
  obtain ⟨voters, given⟩ := gives.credentials
  rw [Bundle.ofResponse, given]
  exact if_neg notStore

end Giving

/-! ## The course of an installation -/

section Course

variable {protocol : Protocol} {peer token root : String} {bundle : Bundle} {keys : Keys}
  {before keyed administered after : Disk} {servers adminToken : String}

/-- A member gets its keys first, then the administrator's token and at last its store. -/
structure Course (protocol : Protocol) (bundle : Bundle) (before keyed administered after : Disk) :
    Prop where
  toKeyed : ChangesOnly (handedFootprint ++ callbackFootprint ++ keyFootprint protocol) before keyed
  setAdmin : (setAdmin bundle).run keyed = (.ok (), administered)
  installStore : (installStore protocol bundle).run administered = (.ok (), after)

theorem install_member_ok (complete : keysOf bundle = some keys)
    (installed : (install protocol peer token false bundle).run before = (.ok (), after)) :
    Handed bundle after ∧ Keyed protocol keys after ∧
      Tokens.callbackIn (Peer.authority peer) after = some bundle.callbackToken ∧
        after.refuses = before.refuses ∧
          ∃ keyed administered, Course protocol bundle before keyed administered after := by
  obtain ⟨_, shared, ranCommon, ran⟩ := bind_ok installed
  rw [if_neg Bool.false_ne_true] at ran
  obtain ⟨_, found, ran⟩ := controlPlane_ok ran
  rw [complete] at found
  cases found
  have sharing : ChangesOnly (handedFootprint ++ callbackFootprint) before shared :=
    (common_within peer bundle).reaches ranCommon
  have joining : ChangesOnly (memberFootprint protocol) shared after :=
    (withKeys_within keys).reaches ran
  obtain ⟨handed, callback⟩ := common_ok ranCommon
  obtain ⟨keyed, keyedDisk, administered, keying, setToken, setStore⟩ := withKeys_ok ran
  -- The peer's token was stored before the keys, and no key is written over it.
  have apart : Layout.callbackTokens.names ∉ memberFootprint protocol := by
    cases protocol <;> decide
  refine ⟨handed.of_changes joining ?_ ?_, keyed, ?_, joining.refuses.trans sharing.refuses,
    keyedDisk, administered, ?_, setToken, setStore⟩
  · cases protocol <;> decide
  · cases protocol <;> decide
  · exact (Tokens.callbackIn_congr (joining.fileAt? apart) _).trans callback
  · exact (sharing.mono (List.subset_append_left _ _)).trans
      (keying.mono (List.subset_append_right _ _))

namespace Course

variable (course : Course protocol bundle before keyed administered after)
include course

/-- Where there were no tokens before, the administrator's token is the one that was given. -/
theorem stores_admin (given : bundle.adminToken = some adminToken)
    (absent : before.entryAt? Layout.knownTokens.names = none) :
    after.Stores Layout.knownTokens (NodeState.loneAdmin adminToken) := by
  have stillAbsent : keyed.entryAt? Layout.knownTokens.names = none := by
    rw [course.toKeyed.entryAt? ?_, absent]
    cases protocol <;> decide
  have set := course.setAdmin
  rw [Install.setAdmin, given] at set
  have stored := NodeState.setAdminToken_ok (adapt_ok set) stillAbsent
  have storing : ChangesOnly (storeFootprint protocol) administered after :=
    (installStore_within protocol bundle).reaches course.installStore
  refine storing.stores ?_ stored
  cases protocol <;> decide

/-- Where the API server had no flags before, it uses the endpoints that were given, and none if
none were given. -/
theorem uses_servers (notStore : protocol ≠ .replicatedStore)
    (given : bundle.etcdServers = nonempty? servers) (solid : Text.Solid servers.toList)
    (absent : before.entryAt? (Layout.flags "kube-apiserver").names = none) :
    etcdServers after = servers := by
  have administering : ChangesOnly adminFootprint keyed administered :=
    (setAdmin_within bundle).reaches course.setAdmin
  have stillAbsent : administered.entryAt? (Layout.flags "kube-apiserver").names = none := by
    rw [administering.entryAt? (by decide), course.toKeyed.entryAt? ?_, absent]
    cases protocol <;> decide
  have isFlag : Flags.IsFlag "--etcd-servers".toList := ⟨by decide, by decide, by decide⟩
  have setting := course.installStore
  rw [installStore_eq notStore, setServers, given, nonempty?] at setting
  by_cases empty : servers.isEmpty = true
  · rw [if_pos empty] at setting
    cases setting
    rw [String.isEmpty_iff.mp empty]
    exact Flags.lookup_of_absent stillAbsent _
  · rw [if_neg empty] at setting
    exact Flags.lookup_set isFlag solid (adapt_ok setting)

end Course

end Course

/-! ## What a new member holds -/

section Holding

variable {protocol : Protocol} {peer token root : String} {response : Response}
  {holdings : Holdings} {keys : Keys} {served joined : Disk}

theorem keyPair_of_keyed (keyed : Keyed protocol keys joined)
    (allowed : ∀ names, joined.refuses .read names = none) :
    (clusterKeyPair protocol).run joined = (.ok ⟨keys.certificate, keys.key⟩, joined) := by
  refine clusterKeyPair_iff.mpr ?_
  cases protocol with
  | replicatedStore =>
      exact ⟨keyed.certificate.textOf rfl (by decide) (allowed _),
        keyed.key.textOf rfl (by decide) (allowed _)⟩
  | legacy =>
      exact ⟨keyed.certificate.textOf rfl (by decide) (allowed _),
        keyed.key.textOf rfl (by decide) (allowed _)⟩
  | etcdHa =>
      exact ⟨keyed.certificate.textOf rfl (by decide) (allowed _),
        keyed.key.textOf rfl (by decide) (allowed _)⟩

/-- A member that starts with an empty data directory holds what the answering node held and
gave to it. -/
theorem install_holds (holds : Holds protocol served holdings)
    (gives : Gives protocol response holdings)
    (installed : (install protocol peer token false (.ofResponse response)).run
      (Disk.empty root) = (.ok (), joined)) : Holds protocol joined holdings := by
  obtain ⟨handed, keyed, _, refuses, _, _, course⟩ :=
    install_member_ok (keysOf_given gives) installed
  have allowed (names : List String) : joined.refuses .read names = none := by
    rw [refuses]
    rfl
  have authority := handed.authority.textOf rfl (by decide) (allowed _)
  rw [Bundle.authority_ofResponse, gives.authority] at authority
  have isToken : NodeState.IsAdminToken holdings.adminToken.toList := by
    obtain ⟨_, _, found⟩ := NodeState.adminToken_ok holds.adminToken
    exact NodeState.isAdminToken_of_adminTokenIn found
  have admin := course.stores_admin (adminToken_given gives) rfl
  refine ⟨readWhole_iff.mpr authority,
    readWhole_iff.mpr (keyed.authorityKey.textOf rfl (by decide) (allowed _)),
    readWhole_iff.mpr (keyed.serviceAccountKey.textOf rfl (by decide) (allowed _)),
    NodeState.adminToken_of_textOf (admin.textOf rfl (by decide) (allowed _))
      (NodeState.adminTokenIn_loneAdmin isToken),
    keyPair_of_keyed keyed allowed, fun notStore => ?_⟩
  have solid : Text.Solid holdings.etcdServers.toList := by
    rw [← holds.etcdServers notStore]
    exact Flags.solid_lookup _ _ _
  exact course.uses_servers notStore (etcdServers_given gives notStore) solid rfl

end Holding

/-! ## Chains of joins -/

/-- A node that still has the credentials that are in `node` admits a member with this
response. -/
structure Answers (protocol : Protocol) (node : Disk) (response : Response) : Prop where
  answered : ∃ surroundings patience request server served,
    (join surroundings patience protocol request).run server = (.ok response, served) ∧
      request.worker = false ∧ Considerate surroundings protocol ∧ Settled protocol server ∧
        KeepsCredentials protocol node server.disk ∧
          (protocol ≠ .replicatedStore → etcdServers server.disk = etcdServers node)

/-- A node has joined through `first`, or through another node that has. -/
inductive JoinedThrough (protocol : Protocol) (first : Disk) : Disk → Prop
  | itself : JoinedThrough protocol first first
  | next {node joined : Disk} {response : Response} {bundle : Bundle}
      {peer token root : String} :
      JoinedThrough protocol first node →
        Answers protocol node response →
          Bundle.decode response.toJson.render = .ok bundle →
            (install protocol peer token false bundle).run (Disk.empty root) = (.ok (), joined) →
              JoinedThrough protocol first joined

section Chains

variable {protocol : Protocol} {first node : Disk} {response : Response} {holdings : Holdings}

theorem gives_of_answers (holds : Holds protocol node holdings)
    (answers : Answers protocol node response) : Gives protocol response holdings := by
  obtain ⟨_, _, _, _, _, ran, isMember, considerate, settled, keeps, servers⟩ := answers
  exact (join_gives considerate settled (holds.of_kept keeps servers) isMember ran).2

/-- Along a chain of joins every node holds what the first one holds. -/
theorem holds_of_joinedThrough (holds : Holds protocol first holdings)
    (chain : JoinedThrough protocol first node) : Holds protocol node holdings := by
  induction chain with
  | itself => exact holds
  | next _ answers decoded installed inductionHypothesis =>
      rw [Bundle.decode_response] at decoded
      cases decoded
      exact install_holds inductionHypothesis (gives_of_answers inductionHypothesis answers)
        installed

end Chains

/-! ## The way from a server to the node that joins -/

/-- The node that joined holds what the answering node holds, runs the same store and calls that
node with its own token. All that join through it, directly or not, hold and hand out the
same. -/
structure Arrives (protocol : Protocol) (peer : String) (response : Response)
    (served joined : Disk) (holdings : Holdings) : Prop where
  server : Holds protocol served holdings
  node : Holds protocol joined holdings
  backend : NodeState.backend joined = protocol.requiredBackend
  own : Tokens.OwnToken served response.callbackToken
  callback : ∃ after, (Tokens.callbackFor (Peer.authority peer)).run joined =
    (.ok (some response.callbackToken), after)
  chain : ∀ node, JoinedThrough protocol joined node →
    Holds protocol node holdings ∧
      ∀ response, Answers protocol node response → Gives protocol response holdings

section Arriving

variable {surroundings : Surroundings} {patience : Patience} {protocol : Protocol}
  {request : Request} {server served : World} {response : Response} {peer : String}

/-- The credentials of a control plane reach every member that joins it. -/
theorem credentials_arrive (elsewhere : AppliesElsewhere surroundings)
    (tokens : ∀ drawn, surroundings.token drawn ≠ "") (isMember : request.worker = false)
    (ran : (join surroundings patience protocol request).run server = (.ok response, served))
    (noBar : '|' ∉ response.callbackToken.toList)
    (solid : Text.Solid response.callbackToken.toList)
    (peerNonempty : Peer.authority peer ≠ "") (peerSolid : Text.Solid (Peer.authority peer).toList)
    (token root : String) :
    ∃ bundle joined holdings,
      Bundle.decode response.toJson.render = .ok bundle ∧
        (install protocol peer token false bundle).run (Disk.empty root) = (.ok (), joined) ∧
          Arrives protocol peer response served.disk joined holdings := by
  obtain ⟨⟨holdings, holds, gives⟩, _, own⟩ := join_member elsewhere isMember ran
  obtain ⟨own, fresh⟩ := own solid
  have nonempty : response.callbackToken ≠ "" := by
    rcases fresh with ⟨drawn, isFresh⟩ | nonempty
    · rw [isFresh]
      exact tokens drawn
    · exact nonempty
  have allowed : Tokens.checkToken (Bundle.ofResponse response).callbackToken = .ok () := by
    rw [Bundle.callbackToken_ofResponse]
    exact Tokens.checkToken_ok nonempty noBar solid
  have complete := keysOf_given gives
  obtain ⟨_, joined, installed, tidy⟩ :=
    install_works complete allowed peerNonempty peerSolid (Disk.empty root)
      (tidy_empty (memberFiles protocol) root)
  have node : Holds protocol joined holdings := install_holds holds gives installed
  refine ⟨.ofResponse response, joined, holdings, Bundle.decode_response response, installed,
    holds, node, ?_, own, ?_, fun later chain => ?_⟩
  · rw [install_backend installed]
    cases protocol <;> rfl
  · have lock : Layout.tokensLock.names ∈ memberFiles protocol := by
      cases protocol <;> decide
    have writable : Writable (memberFiles protocol) Layout.callbackTokens := by
      cases protocol <;> decide
    obtain ⟨found, after, asked, _⟩ := Tokens.callbackFor_works (layered_memberFiles protocol)
      lock writable (Peer.authority peer) joined tidy
    obtain ⟨_, _, callback, _⟩ := install_member_ok complete installed
    rw [Tokens.callbackFor_ok asked, callback, Bundle.callbackToken_ofResponse] at asked
    exact ⟨after, asked⟩
  · have still := holds_of_joinedThrough node chain
    exact ⟨still, fun response answers => gives_of_answers still answers⟩

end Arriving

/-! ## A member of an etcd cluster -/

theorem quiet_considerate (protocol : Protocol) : Considerate Rehearsal.quiet protocol where
  apply := fun _ _ => rfl
  obey := fun _ _ => ⟨fun _ => within_pure (), fun _ => within_pure (), within_pure _⟩

def endpointNode : World :=
  etcdNode "--v=2\n" "--etcd-servers=https://10.0.0.1:12379\n"

def endpointResponse : Response :=
  etcdResponse "--v=2\n" (some "10.0.0.2") (some "https://10.0.0.1:12379")

theorem endpointNode_admits :
    (join Rehearsal.quiet .endless .etcdHa (memberCalling "10.0.0.1:25001" "10.0.0.2")).run
        endpointNode =
      (.ok endpointResponse,
        ((join Rehearsal.quiet .endless .etcdHa
          (memberCalling "10.0.0.1:25001" "10.0.0.2")).run endpointNode).2) :=
  run_of_toOption (by decide +kernel)

theorem endpointNode_credentials_arrive :
    Answers .etcdHa endpointNode.disk endpointResponse ∧
      ∃ bundle joined holdings,
        Bundle.decode endpointResponse.toJson.render = .ok bundle ∧
          (install .etcdHa "10.0.0.1:25001" "abc" false bundle).run (Disk.empty "/data") =
              (.ok (), joined) ∧
            Arrives .etcdHa "10.0.0.1:25001" endpointResponse
              ((join Rehearsal.quiet .endless .etcdHa
                (memberCalling "10.0.0.1:25001" "10.0.0.2")).run endpointNode).2.disk
              joined holdings := by
  refine ⟨⟨_, _, _, _, _, endpointNode_admits, rfl, quiet_considerate _,
    fun _ _ _ member => absurd member List.not_mem_nil, fun _ _ _ read => read, fun _ => rfl⟩, ?_⟩
  exact credentials_arrive (fun _ _ => rfl)
    (fun drawn => by simp [Rehearsal.quiet, Rehearsal.surroundings]) rfl endpointNode_admits
    (by decide) (by decide) (by decide) (by decide) "abc" "/data"

end Install
end ClusterAgent
