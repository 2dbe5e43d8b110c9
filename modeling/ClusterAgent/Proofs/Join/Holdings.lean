import ClusterAgent.Proofs.Join.Handout
import ClusterAgent.Proofs.Node.AdminToken
namespace ClusterAgent

open Disk Running

namespace World

/-! ## Texts that stay readable -/

/-- No other process is going to write at the place or on the way to it. -/
def NoneDueAt (place : Place) (world : World) : Prop :=
  ∀ delivery ∈ world.pending, ¬delivery.names <+: place.names

/-- What can be read where no other process is going to write can be read there afterwards. -/
def Sustains (place : Place) (before after : World) : Prop :=
  NoneDueAt place before →
    NoneDueAt place after ∧
      ∀ text, before.disk.textOf place = .ok text → after.disk.textOf place = .ok text

instance calm_sustains (place : Place) : Calm (Sustains place) where
  apart := fun names => ¬names <+: place.names
  refl := fun _ noneDue => ⟨noneDue, fun _ read => read⟩
  trans := fun first second noneDue =>
    have earlier := first noneDue
    have later := second earlier.1
    ⟨later.1, fun text read => later.2 text (earlier.2 text read)⟩
  changes := fun changes clear pending noneDue =>
    ⟨fun delivery member => noneDue delivery (pending ▸ member), fun _ read =>
      changes.textOf_ok clear read⟩
  settle := by
    intro world time noneDue
    have clear : Clear ((world.pending.filter fun delivery => delivery.due ≤ time).map
        Delivery.names) place := by
      intro names member
      obtain ⟨delivery, isDue, same⟩ := List.mem_map.mp member
      rw [← same]
      exact noneDue delivery (List.mem_filter.mp isDue).1
    refine ⟨fun delivery later => noneDue delivery (List.mem_filter.mp later).1, ?_⟩
    intro text read
    exact (foldl_deliver_changes _ world.disk).textOf_ok clear read

end World

namespace Join

open World

/-! ## What a node can hand out -/

/-- What a node hands out to every member that joins it. -/
structure Holdings where
  authority : String
  authorityKey : String
  serviceAccountKey : String
  adminToken : String
  keyPair : KeyPair
  etcdServers : String

/-- The node can hand these things out to those who join by the protocol. -/
structure Holds (protocol : Protocol) (disk : Disk) (holdings : Holdings) : Prop where
  authority : (readWhole Layout.authorityCertificate).run disk = (.ok holdings.authority, disk)
  authorityKey : (readWhole Layout.authorityKey).run disk = (.ok holdings.authorityKey, disk)
  serviceAccountKey :
    (readWhole Layout.serviceAccountKey).run disk = (.ok holdings.serviceAccountKey, disk)
  adminToken : NodeState.adminToken.run disk = (.ok holdings.adminToken, disk)
  keyPair : (clusterKeyPair protocol).run disk = (.ok holdings.keyPair, disk)
  etcdServers : protocol ≠ .replicatedStore → etcdServers disk = holdings.etcdServers

/-- The response hands these things out to a member. -/
structure Gives (protocol : Protocol) (response : Response) (holdings : Holdings) : Prop where
  authority : response.authority = holdings.authority
  credentials : ∃ voters, response.credentials = .member
    { voters := voters
      serviceAccountKey := holdings.serviceAccountKey
      adminToken := holdings.adminToken
      authorityKey := holdings.authorityKey
      clusterCertificate := holdings.keyPair.certificate
      clusterKey := holdings.keyPair.key
      etcdServers :=
        if protocol = .replicatedStore then none else nonempty? holdings.etcdServers }

section Members

variable {surroundings : Surroundings} {patience : Patience} {protocol : Protocol}
  {request : Request} {server served : World} {response : Response} {holdings : Holdings}

theorem clusterKeyPair_iff {disk : Disk} {pair : KeyPair} :
    (clusterKeyPair protocol).run disk = (.ok pair, disk) ↔
      disk.textOf (certificatePlace protocol.requiredBackend) = .ok pair.certificate ∧
        disk.textOf (keyPlace protocol.requiredBackend) = .ok pair.key := by
  rw [clusterKeyPair_eq]
  refine ⟨NodeState.readKeyPair_ok, fun ⟨certificate, key⟩ => ?_⟩
  rw [NodeState.readKeyPair, run_bind, readWhole_iff.mpr certificate]
  dsimp only
  rw [run_bind, readWhole_iff.mpr key]
  rfl

/-- A join of a member hands out what the answering node holds when it ends. -/
theorem join_member (elsewhere : AppliesElsewhere surroundings)
    (isMember : request.worker = false)
    (ran : (join surroundings patience protocol request).run server = (.ok response, served)) :
    (∃ holdings, Holds protocol served.disk holdings ∧ Gives protocol response holdings) ∧
      (protocol ≠ .replicatedStore → etcdServers served.disk = etcdServers server.disk) ∧
        (Text.Solid response.callbackToken.toList →
          Tokens.OwnToken served.disk response.callbackToken ∧
            ((∃ drawn, response.callbackToken = surroundings.token drawn) ∨
              response.callbackToken ≠ "")) := by
  obtain ⟨spent, consumed, granted⟩ := join_ok ran
  obtain ⟨remote, override, admitted, admittedAt, _, _, admission, completed⟩ := grant_ok granted
  obtain ⟨⟨member, given, receives⟩, authority, servers, own⟩ :=
    complete_member elsewhere isMember completed
  have spending : ChangesOnly (Tokens.footprint .cluster) server.disk spent :=
    Tokens.consume_within.reaches consumed
  have sameServers (notStore : protocol ≠ .replicatedStore) :
      etcdServers served.disk = etcdServers server.disk := by
    have admitting := (admitBy_etcd notStore admission).2
    calc
      etcdServers served.disk = etcdServers admittedAt.disk := servers
      _ = etcdServers spent := Flags.lookup_elsewhere admitting _ _ (by decide)
      _ = etcdServers server.disk := Flags.lookup_elsewhere spending _ _ (by decide)
  have admittedServers : admitted.etcdServers =
      if protocol = .replicatedStore then none else nonempty? (etcdServers served.disk) := by
    split
    · rename_i isStore
      subst isStore
      exact admitToStore_etcdServers admission
    · rename_i notStore
      rw [servers]
      exact (admitBy_etcd notStore admission).1
  refine ⟨⟨⟨response.authority, member.authorityKey, member.serviceAccountKey, member.adminToken,
    ⟨member.clusterCertificate, member.clusterKey⟩, etcdServers served.disk⟩, ?_, ?_⟩,
    sameServers, own⟩
  · exact ⟨readWhole_iff.mpr authority, readWhole_iff.mpr receives.authorityKey,
      readWhole_iff.mpr receives.serviceAccountKey, receives.adminToken,
      clusterKeyPair_iff.mpr ⟨receives.certificate, receives.key⟩, fun _ => rfl⟩
  · refine ⟨rfl, member.voters, ?_⟩
    rw [given, ← admittedServers, ← receives.etcdServers]

/-! ## What a node keeps while it answers -/

/-- Where a node keeps what it hands out to members, apart from its flags. -/
def credentialPlaces (protocol : Protocol) : List Place :=
  [Layout.authorityCertificate, Layout.authorityKey, Layout.serviceAccountKey,
    Layout.knownTokens, certificatePlace protocol.requiredBackend,
    keyPlace protocol.requiredBackend]

/-- What can be read where a node keeps its credentials can be read there afterwards. -/
def KeepsCredentials (protocol : Protocol) (before after : Disk) : Prop :=
  ∀ place ∈ credentialPlaces protocol, ∀ text,
    before.textOf place = .ok text → after.textOf place = .ok text

theorem Holds.of_kept {before after : Disk} (holds : Holds protocol before holdings)
    (keeps : KeepsCredentials protocol before after)
    (servers : protocol ≠ .replicatedStore → Join.etcdServers after = Join.etcdServers before) :
    Holds protocol after holdings := by
  obtain ⟨authority, authorityKey, serviceAccountKey, adminToken, keyPair, etcdServers⟩ := holds
  have whole {place : Place} (member : place ∈ credentialPlaces protocol) {text : String}
      (read : (readWhole place).run before = (.ok text, before)) :
      (readWhole place).run after = (.ok text, after) :=
    readWhole_iff.mpr (keeps place member text (readWhole_iff.mp read))
  obtain ⟨content, known, found⟩ := NodeState.adminToken_ok adminToken
  obtain ⟨certificate, key⟩ := clusterKeyPair_iff.mp keyPair
  refine ⟨whole (by simp [credentialPlaces]) authority, whole (by simp [credentialPlaces])
    authorityKey, whole (by simp [credentialPlaces]) serviceAccountKey, ?_, ?_,
    fun notStore => (servers notStore).trans (etcdServers notStore)⟩
  · exact NodeState.adminToken_of_textOf (keeps _ (by simp [credentialPlaces]) _ known) found
  · exact clusterKeyPair_iff.mpr ⟨keeps _ (by simp [credentialPlaces]) _ certificate,
      keeps _ (by simp [credentialPlaces]) _ key⟩

theorem Gives.of_holds {disk : Disk} {others : Holdings} (gives : Gives protocol response others)
    (holdsOthers : Holds protocol disk others) (holds : Holds protocol disk holdings) :
    Gives protocol response holdings := by
  have read {ε α : Type} {step : Disk.Step ε α} {first second : α}
      (one : step.run disk = (.ok first, disk)) (other : step.run disk = (.ok second, disk)) :
      first = second :=
    Except.ok.inj (Prod.mk.inj (one.symm.trans other)).1
  obtain ⟨voters, credentials⟩ := gives.credentials
  refine ⟨gives.authority.trans (read holdsOthers.authority holds.authority), voters, ?_⟩
  rw [credentials, read holdsOthers.serviceAccountKey holds.serviceAccountKey,
    read holdsOthers.adminToken holds.adminToken, read holdsOthers.authorityKey holds.authorityKey,
    read holdsOthers.keyPair holds.keyPair]
  by_cases isStore : protocol = .replicatedStore
  · simp only [isStore, if_true]
  · rw [← holdsOthers.etcdServers isStore, ← holds.etcdServers isStore]

/-- What an agent meets outside its data directory touches neither that directory when a manifest
is applied nor ever the credentials. -/
structure Considerate (surroundings : Surroundings) (protocol : Protocol) : Prop where
  apply : AppliesElsewhere surroundings
  obey : ∀ place ∈ credentialPlaces protocol, surroundings.Obey (Sustains place)

/-- No other process is going to touch the credentials. -/
def Settled (protocol : Protocol) (world : World) : Prop :=
  ∀ place ∈ credentialPlaces protocol, NoneDueAt place world

theorem join_keeps (considerate : Considerate surroundings protocol)
    (settled : Settled protocol server)
    (ran : (join surroundings patience protocol request).run server = (.ok response, served)) :
    KeepsCredentials protocol server.disk served.disk := by
  intro place member
  have spending : Clear (Tokens.footprint .cluster) place := by
    revert place member
    cases protocol <;> decide
  have admission : Clear admissionFootprint place := by
    revert place member
    cases protocol <;> decide
  have completion : Clear completionFootprint place := by
    revert place member
    cases protocol <;> decide
  have sustains : Sustains place server served :=
    (join_calm (considerate.obey place member) spending admission completion patience protocol
      request).reaches ran
  exact (sustains (settled place member)).2

/-- A node that is left in peace hands out what it holds, and holds it still. -/
theorem join_gives (considerate : Considerate surroundings protocol)
    (settled : Settled protocol server) (holds : Holds protocol server.disk holdings)
    (isMember : request.worker = false)
    (ran : (join surroundings patience protocol request).run server = (.ok response, served)) :
    Holds protocol served.disk holdings ∧ Gives protocol response holdings := by
  obtain ⟨⟨others, holdsOthers, gives⟩, servers, _⟩ :=
    join_member considerate.apply isMember ran
  have still := holds.of_kept (join_keeps considerate settled ran) servers
  exact ⟨still, gives.of_holds holdsOthers still⟩

end Members

end Join
end ClusterAgent
