import ClusterAgent.Proofs.Join.Parts
import ClusterAgent.Proofs.Membership.Store
import ClusterAgent.Proofs.Node.State
import ClusterAgent.Proofs.Tokens.Agreement
import ClusterAgent.Rehearsal.Storage
namespace ClusterAgent

open Running Disk

namespace World

/-! ## Worlds that differ in some files only -/

/-- The two worlds are the same except in the entries of the data directory with the names in
`hidden`. -/
structure AgreeOff (hidden : List (List String)) (left right : World) : Prop where
  disk : Disk.AgreeOff hidden left.disk right.disk
  clock : left.clock = right.clock
  pending : left.pending = right.pending
  calls : left.calls = right.calls
  drawn : left.drawn = right.drawn
  shutdownAt : left.shutdownAt = right.shutdownAt

section Blindness

variable {hidden : List (List String)} {ε δ α : Type}

theorem onDisk_blind {step : Disk.Step ε α} (blind : Blind (Disk.AgreeOff hidden) step) :
    Blind (AgreeOff hidden) (onDisk step) := by
  intro left right agree
  obtain ⟨same, disks⟩ := blind left.disk right.disk agree.disk
  exact ⟨same, ⟨disks, agree.clock, agree.pending, agree.calls, agree.drawn, agree.shutdownAt⟩⟩

theorem tolerate_blind {action : Activity ε α} (blind : Blind (AgreeOff hidden) action) :
    Blind (AgreeOff hidden) (tolerate action : Activity δ Unit) :=
  fun left right agree => ⟨rfl, (blind left right agree).2⟩

theorem call_blind (made : Call) : Blind (AgreeOff hidden) (call made : Activity ε Unit) :=
  blind_modify fun left right agree => by
    refine ⟨agree.disk, agree.clock, agree.pending, ?_, agree.drawn, agree.shutdownAt⟩
    exact congrArg (· ++ [made]) agree.calls

theorem drawToken_blind (surroundings : Surroundings) :
    Blind (AgreeOff hidden) (surroundings.drawToken : Activity ε String) := by
  intro left right agree
  refine ⟨congrArg (fun drawn => Except.ok (surroundings.token drawn)) agree.drawn, ?_⟩
  exact ⟨agree.disk, agree.clock, agree.pending, agree.calls, congrArg (· + 1) agree.drawn,
    agree.shutdownAt⟩

theorem AgreeOff.diskAt {left right : World} (agree : AgreeOff hidden left right) (time : Nat) :
    Disk.AgreeOff hidden (left.diskAt time) (right.diskAt time) := by
  have delivered : ∀ (deliveries : List Delivery) (first second : Disk),
      Disk.AgreeOff hidden first second →
        Disk.AgreeOff hidden (deliveries.foldl deliver first)
          (deliveries.foldl deliver second) := by
    intro deliveries
    induction deliveries with
    | nil => exact fun _ _ disks => disks
    | cons delivery rest inductionHypothesis =>
        exact fun _ _ disks => inductionHypothesis _ _ ((disks.put _ _).note _)
  rw [World.diskAt, World.diskAt, agree.pending]
  exact delivered _ _ _ agree.disk

theorem AgreeOff.settle {left right : World} (agree : AgreeOff hidden left right) (time : Nat) :
    AgreeOff hidden (left.settle time) (right.settle time) := by
  refine ⟨agree.diskAt time, rfl, ?_, agree.calls, agree.drawn, agree.shutdownAt⟩
  exact congrArg (List.filter _) agree.pending

theorem AgreeOff.seconds {left right : World} (agree : AgreeOff hidden left right) :
    left.seconds = right.seconds := by
  rw [World.seconds, World.seconds, agree.clock]

end Blindness

end World

namespace Join

open World

/-! ## The secrets of the control plane -/

/-- The keys, the administrator's token and the key pairs that members of the control plane
receive. -/
def secrets : List Place :=
  [Layout.authorityKey, Layout.serviceAccountKey, Layout.knownTokens, Layout.serverCertificate,
    Layout.serverKey, Layout.storeCertificate, Layout.storeKey]

/-- Worlds that differ in secrets only. -/
abbrev SecretlyDiffer : World → World → Prop :=
  World.AgreeOff (secrets.map Place.names)

/-- Nothing that an agent meets outside its data directory sees the secrets. -/
structure Discreet (surroundings : Surroundings) : Prop where
  restart : ∀ service, Blind SecretlyDiffer (surroundings.restart service)
  apply : ∀ manifest, Blind SecretlyDiffer (surroundings.apply manifest)
  listNodes : Blind SecretlyDiffer surroundings.listNodes

section Joining

variable {surroundings : Surroundings}

theorem onState_blind {α : Type} {step : Disk.Step FileError α}
    (blind : Blind (Disk.AgreeOff (secrets.map Place.names)) step) :
    Blind SecretlyDiffer (onState step) :=
  blind_adapt (onDisk_blind blind)

theorem onTokens_blind {α : Type} {step : Disk.Step TokenError α}
    (blind : Blind (Disk.AgreeOff (secrets.map Place.names)) step) :
    Blind SecretlyDiffer (onTokens step) :=
  blind_adapt (onDisk_blind blind)

theorem check_congr {left right : World} (agree : SecretlyDiffer left right)
    (protocol : Protocol) (request : Request) :
    check protocol request left.disk = check protocol request right.disk := by
  have backend : NodeState.backend left.disk = NodeState.backend right.disk := by
    rw [NodeState.backend, NodeState.backend, agree.disk.holds (by decide)]
  have port : agentPort left.disk = agentPort right.disk := by
    rw [agentPort, agentPort, Flags.lookup_congr (agree.disk.textOf (by decide)) _]
  rw [check, check, backend, port]

/-! ## Admission without the secrets -/

theorem read_blind :
    Blind (Disk.AgreeOff (secrets.map Place.names)) Membership.read := by
  refine blind_get (fun left right agree => ?_) fun disk => ?_
  · rw [agree.shown]
  · refine blind_bind (blind_adapt (readText_blind (by decide))) fun text => ?_
    split
    · exact blind_pure _
    · exact blind_throw _

theorem moveBootstrap_blind (discreet : Discreet surroundings) (host : String) :
    Blind SecretlyDiffer (Membership.moveBootstrap surroundings host) := by
  refine blind_bind (onDisk_blind read_blind) fun snapshot =>
    blind_bind (fun _ _ agree => ⟨rfl, agree⟩) fun address =>
      blind_bind (onDisk_blind (blind_get (fun left right agree => ?_) fun disk => ?_)) fun _ =>
        blind_adapt (blind_bind (call_blind _) fun _ => discreet.restart _)
  · rw [agree.shown]
  · exact blind_adapt (writeAtomic_blind ⟨by decide, by decide⟩ _)

theorem waitUntil_blind (cancelAt : Option Nat) (wanted : Membership.Snapshot → Bool) :
    Blind SecretlyDiffer (Membership.waitUntil surroundings cancelAt wanted) := by
  intro left right agree
  have history : Membership.historyFrom left = Membership.historyFrom right := by
    funext elapsed
    rw [Membership.historyFrom, Membership.historyFrom, agree.clock]
    exact (read_blind _ _ (agree.diskAt _)).1
  have untilTime : Membership.timeUntil left = Membership.timeUntil right := by
    funext time
    rw [Membership.timeUntil, Membership.timeUntil, agree.clock]
  have waited : Membership.waiting surroundings cancelAt wanted left =
      Membership.waiting surroundings cancelAt wanted right := by
    rw [Membership.waiting, Membership.waiting, history, untilTime]
  have ended : left.clock + (Membership.waiting surroundings cancelAt wanted left).elapsed =
      right.clock + (Membership.waiting surroundings cancelAt wanted right).elapsed := by
    rw [agree.clock, waited]
  refine ⟨congrArg Membership.Wait.Result.answer waited, ?_⟩
  change SecretlyDiffer (left.settle (left.clock + _)) (right.settle (right.clock + _))
  rw [ended]
  exact agree.settle _

theorem awaitMove_blind (patience : Patience) :
    Blind SecretlyDiffer (awaitMove surroundings patience) := by
  intro left right agree
  have wait : Blind SecretlyDiffer (ExceptT.adapt Error.ofMembership
      (Membership.waitUntil surroundings left.shutdownAt Membership.Snapshot.hasMoved)) :=
    blind_adapt (waitUntil_blind _ _)
  obtain ⟨sameAnswer, alikeAfter⟩ := wait left right agree
  rw [run_awaitMove, run_awaitMove, ← agree.shutdownAt]
  dsimp only
  cases patience with
  | endless => exact ⟨sameAnswer, alikeAfter⟩
  | «until» time membershipIsHeld =>
      dsimp only
      rw [alikeAfter.clock]
      split
      · exact ⟨rfl, agree.settle time⟩
      · exact ⟨sameAnswer, alikeAfter⟩

theorem holdMembership_blind (patience : Patience) :
    Blind SecretlyDiffer (holdMembership patience) := by
  rw [holdMembership.eq_def]
  split
  · exact blind_bind (blind_modify fun _ _ agree => agree.settle _) fun _ => blind_throw _
  · exact blind_pure ()

theorem etcdServers_congr {left right : World} (agree : SecretlyDiffer left right) :
    etcdServers left.disk = etcdServers right.disk :=
  Flags.lookup_congr (agree.disk.textOf (by decide)) _

theorem admitBy_blind (discreet : Discreet surroundings) (patience : Patience)
    (protocol : Protocol) (request : Request) (remote : IpAddress) :
    Blind SecretlyDiffer (admitBy surroundings patience protocol request remote) := by
  cases protocol with
  | legacy =>
      have answering : Blind SecretlyDiffer (do
          return ⟨none, nonempty? (etcdServers (← get).disk)⟩ : Activity Error Admitted) :=
        blind_get (fun left right agree => by rw [etcdServers_congr agree]) fun _ => blind_pure _
      unfold admitBy admitLegacy
      dsimp only
      split
      · exact answering
      · refine blind_bind (onTokens_blind (Tokens.storeCallback_blind ?_ ?_ _ _)) fun _ => answering
        · decide
        · exact ⟨by decide, by decide⟩
  | replicatedStore =>
      unfold admitBy
      rw [admitToStore_eq]
      refine blind_bind (holdMembership_blind patience) fun _ =>
        blind_bind (blind_adapt (onDisk_blind read_blind)) fun snapshot => ?_
      unfold admitAsSeen
      split
      · exact blind_throw _
      · split
        · split
          · exact blind_throw _
          · exact blind_bind (blind_adapt (moveBootstrap_blind discreet _)) fun _ =>
              blind_bind (awaitMove_blind patience) fun _ => blind_pure _
        · exact blind_pure _
  | etcdHa =>
      refine blind_bind (holdMembership_blind patience) fun _ =>
        blind_get (fun left right agree => by rw [etcdServers_congr agree]) fun world => ?_
      dsimp only
      split
      · exact blind_bind (blind_throw _) fun _ => blind_pure _
      · exact blind_pure _

/-! ## A worker's join -/

theorem patchFile_blind (host : String) :
    Blind (Disk.AgreeOff (secrets.map Place.names)) (Autodetection.patchFile host) := by
  refine blind_get (fun left right agree => ?_) fun disk => ?_
  · rw [agree.shown]
  · refine blind_bind (blind_adapt (readOptional_blind (by decide))) fun manifest => ?_
    cases manifest with
    | none => exact blind_pure false
    | some manifest =>
        dsimp only
        split
        · exact blind_pure false
        · exact blind_bind (blind_adapt (writeAtomic_blind ⟨by decide, by decide⟩ _)) fun _ =>
            blind_pure true

theorem patchManifest_blind (discreet : Discreet surroundings) (host : String) (apply : Bool) :
    Blind SecretlyDiffer (patchManifest surroundings host apply) := by
  refine blind_bind (onDisk_blind (patchFile_blind host)) fun changed => ?_
  dsimp only
  split
  · refine blind_get (fun left right agree => ?_) fun world => ?_
    · rw [agree.disk.shown]
    · exact blind_bind (tolerate_blind (blind_bind (call_blind _) fun _ => discreet.apply _))
        fun _ => blind_pure changed
  · exact blind_pure changed

theorem workerCredentials_blind (discreet : Discreet surroundings) (request : Request) :
    Blind SecretlyDiffer (workerCredentials surroundings request) := by
  refine blind_bind (onTokens_blind (Tokens.issueForWorker_blind (by decide) ?_ _)) fun _ =>
    blind_bind (blind_adapt (blind_bind (call_blind _) fun _ => discreet.listNodes)) fun _ =>
      blind_pure _
  exact ⟨by decide, by decide⟩

theorem complete_blind (discreet : Discreet surroundings) (protocol : Protocol)
    {request : Request} (worker : request.worker = true) (remote : IpAddress)
    (override : Option String) (admitted : Admitted) :
    Blind SecretlyDiffer (complete surroundings protocol request remote override admitted) := by
  refine blind_bind (drawToken_blind surroundings) fun fresh =>
    blind_bind (onTokens_blind (Tokens.ownCallback_blind (by decide) ?_ _)) fun callbackToken =>
      blind_bind (onState_blind (readWhole_blind (by decide))) fun authority =>
        blind_bind (onState_blind (readWhole_blind (by decide))) fun kubeletFlags =>
          blind_get (fun left right agree => ?_) fun world => ?_
  · exact ⟨by decide, by decide⟩
  · dsimp only
    have flags : left.disk.textOf (Layout.flags "kube-apiserver") =
        right.disk.textOf (Layout.flags "kube-apiserver") :=
      agree.disk.textOf (by decide)
    rw [Flags.lookup_congr flags, Flags.lookup_congr flags]
  · refine blind_bind (tolerate_blind (patchManifest_blind discreet _ _)) fun _ =>
      blind_bind (tolerate_blind (onDisk_blind (touch_blind (by decide)))) fun _ => ?_
    dsimp only
    -- A member would be given the secrets here.
    rw [if_pos worker]
    exact blind_bind (workerCredentials_blind discreet request) fun _ => blind_pure _

/-- What a join does after its token was accepted. -/
theorem grant_blind (discreet : Discreet surroundings) (patience : Patience)
    (protocol : Protocol) {request : Request} (worker : request.worker = true) :
    Blind SecretlyDiffer (grant surroundings patience protocol request) := by
  refine blind_get (fun left right agree => ?_) fun world => ?_
  · rw [check_congr agree]
  · exact blind_bind (fun _ _ agree => ⟨rfl, agree⟩) fun remote =>
      blind_bind (fun _ _ agree => ⟨rfl, agree⟩) fun override =>
        blind_bind (admitBy_blind discreet patience protocol request remote) fun admitted =>
          complete_blind discreet protocol worker remote override admitted

/-- A worker that joins learns nothing of the secrets: where nothing else differs, its join
has the same result, and what it does to the node and to everything around it is the same but
for the secrets themselves. -/
theorem worker_join_is_blind (discreet : Discreet surroundings) (patience : Patience)
    (protocol : Protocol) {request : Request} (worker : request.worker = true)
    {left right : World} (alike : SecretlyDiffer left right) :
    ((join surroundings patience protocol request).run left).1 =
        ((join surroundings patience protocol request).run right).1 ∧
      SecretlyDiffer ((join surroundings patience protocol request).run left).2
        ((join surroundings patience protocol request).run right).2 := by
  have blind : Blind SecretlyDiffer (join surroundings patience protocol request) := by
    rw [join_eq]
    refine blind_get (fun left right agree => by rw [agree.seconds]) fun world =>
      blind_bind (onTokens_blind (Tokens.consume_blind (by decide) ?_ _ _)) fun accepted => ?_
    · exact ⟨by decide, by decide⟩
    · split
      · exact grant_blind discreet patience protocol worker
      · exact blind_throw _
  exact blind left right alike

end Joining

/-! ## Rehearsals -/

/-- A store in a rehearsal reads nothing but the address that it was told. -/
theorem storage_restart_blind (storage : Rehearsal.Storage) (service : String) :
    Blind SecretlyDiffer (storage.restart service) := by
  cases storage with
  | fails details => exact blind_throw _
  | ignores => exact blind_pure ()
  | writes text delay =>
      refine blind_modify fun left right agree => ?_
      have told : left.disk.content? Layout.addressUpdate.names =
          right.disk.content? Layout.addressUpdate.names := by
        rw [Disk.content?, Disk.content?, agree.disk.entryAt? (by decide)]
      have adopted :
          Rehearsal.Storage.adopted left.disk = Rehearsal.Storage.adopted right.disk := by
        rw [Rehearsal.Storage.adopted, Rehearsal.Storage.adopted, told]
      rw [adopted, agree.clock]
      cases text.or (Rehearsal.Storage.adopted right.disk) with
      | none => exact agree
      | some text =>
          refine World.AgreeOff.settle ?_ _
          exact ⟨agree.disk, rfl, congrArg (· ++ [_]) agree.pending, agree.calls,
            agree.drawn, agree.shutdownAt⟩

theorem rehearsal_discreet (storage : Rehearsal.Storage) (cluster : Rehearsal.Cluster) :
    Discreet (Rehearsal.surroundings storage cluster) := by
  refine ⟨storage_restart_blind storage, fun manifest => ?_, ?_⟩
  · change Blind SecretlyDiffer (cluster.apply manifest)
    rw [Rehearsal.Cluster.apply]
    split
    · exact blind_throw _
    · exact blind_pure ()
  · change Blind SecretlyDiffer cluster.listNodes
    rw [Rehearsal.Cluster.listNodes]
    split
    · exact blind_throw _
    · exact blind_pure _

/-- A node on etcd whose certificate authority has this key. -/
def nodeWithKey (key : String) : World where
  disk :=
    { Disk.empty "/data" with
      entries :=
        [(["credentials"], .directory),
          (["credentials", "cluster-tokens.txt"], .file "abc\n".toUTF8 false),
          (["certs"], .directory), (["certs", "ca.crt"], .file "CA CERT".toUTF8 false),
          (["args"], .directory), (["args", "kubelet"], .file "--v=2\n".toUTF8 false)] }.put
      Layout.authorityKey.names (.file key.toUTF8 true)
  clock := 1000
  pending := []
  calls := []
  drawn := 0
  shutdownAt := none

def joiningWorker : Request where
  token := "abc"
  hostname := ""
  port := 25000
  worker := true
  callbackToken := none
  contacted := "10.0.0.1:25000"
  remote := "10.0.0.2"

theorem nodeWithKey_alike (key other : String) :
    SecretlyDiffer (nodeWithKey key) (nodeWithKey other) := by
  refine ⟨⟨rfl, rfl, rfl, fun names visible => ?_⟩, rfl, rfl, rfl, rfl, rfl⟩
  have different : names ≠ Layout.authorityKey.names := by
    rintro rfl
    exact visible (by decide)
  exact (entryAt?_put_of_ne _ _ different).trans (entryAt?_put_of_ne _ _ different).symm

/-- A worker is admitted, and its join does not show which key the node has. -/
theorem joiningWorker_is_blind :
    ((join Rehearsal.quiet .endless .legacy joiningWorker).run
        (nodeWithKey "A")).1.toOption.isSome = true ∧
      ((join Rehearsal.quiet .endless .legacy joiningWorker).run (nodeWithKey "A")).1 =
        ((join Rehearsal.quiet .endless .legacy joiningWorker).run (nodeWithKey "B")).1 ∧
      SecretlyDiffer ((join Rehearsal.quiet .endless .legacy joiningWorker).run (nodeWithKey "A")).2
        ((join Rehearsal.quiet .endless .legacy joiningWorker).run (nodeWithKey "B")).2 :=
  ⟨by decide +kernel,
    worker_join_is_blind (rehearsal_discreet _ _) .endless .legacy rfl (nodeWithKey_alike "A" "B")⟩

end Join

end ClusterAgent
