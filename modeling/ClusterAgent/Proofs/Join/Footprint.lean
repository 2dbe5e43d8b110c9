import ClusterAgent.Proofs.Join.Parts
import ClusterAgent.Proofs.Membership.Store
import ClusterAgent.Proofs.Node.State
import ClusterAgent.Proofs.Sparing
import ClusterAgent.Proofs.Tokens.Operations
namespace ClusterAgent

open Running World

namespace Autodetection

theorem patchFile_within (host : String) :
    Within
      (Disk.ChangesOnly [Layout.networkManifest.names, Layout.networkManifest.temporary])
      (patchFile host) := by
  refine within_bind within_get fun disk => ?_
  refine within_bind
    (within_adapt (Disk.within_of_still (Disk.readOptional_within _))) fun manifest => ?_
  cases manifest with
  | none => exact within_pure false
  | some manifest =>
      dsimp only
      split
      · exact within_pure false
      · exact within_bind
          (within_adapt (Disk.writeAtomic_within _ (by simp) (by simp))) fun _ => within_pure true

end Autodetection

namespace Membership

/-! ## Moving the store and waiting for it -/

section Moving

variable {surroundings : Surroundings} {Change : World → World → Prop} [Calm Change]

theorem waitUntil_calm (cancelAt : Option Nat) (wanted : Snapshot → Bool) :
    Within Change (waitUntil surroundings cancelAt wanted) :=
  fun world => Calm.settle world _

theorem moveBootstrap_calm (obey : surroundings.Obey Change) (host : String)
    (clear : Clears Change [Layout.addressUpdate.names, Layout.addressUpdate.temporary]) :
    Within Change (moveBootstrap surroundings host) :=
  within_bind (onDisk_still_calm read_within) fun _ =>
    within_bind (fun _ => Std.Refl.refl _) fun address =>
      within_bind (onDisk_calm (writeUpdate_within address) clear) fun _ =>
        within_adapt (obey.restartService _)

end Moving

end Membership

namespace Join

/-! ## What a join leaves alone -/

/-- The files that an admission may write. -/
def admissionFootprint : List (List String) :=
  [Layout.addressUpdate.names, Layout.addressUpdate.temporary, Layout.tokensLock.names,
    Layout.callbackTokens.names, Layout.callbackTokens.temporary]

/-- The files that a join may write once the node is admitted. -/
def completionFootprint : List (List String) :=
  [Layout.tokensLock.names, Layout.callbackToken.names, Layout.callbackToken.temporary,
    Layout.certificateRequestTokens.names, Layout.certificateRequestTokens.temporary,
    Layout.networkManifest.names, Layout.networkManifest.temporary, Layout.noReissueMarker.names]

section Calm

variable {surroundings : Surroundings} {Change : World → World → Prop} [Calm Change]
  {touched : List (List String)} {α : Type}

theorem onTokens_calm {step : Disk.Step TokenError α}
    (changes : Within (Disk.ChangesOnly touched) step) (clear : Clears Change touched) :
    Within Change (onTokens step) :=
  within_adapt (onDisk_calm changes clear)

theorem onState_calm {step : Disk.Step FileError α} (still : Within Eq step) :
    Within Change (onState step) :=
  within_adapt (onDisk_still_calm still)

theorem holdMembership_calm (patience : Patience) :
    Within Change (holdMembership patience) := by
  rw [holdMembership.eq_def]
  split
  · exact within_bind (within_modify fun world => Calm.settle world _) fun _ => within_throw _
  · exact within_pure ()

theorem awaitMove_calm (patience : Patience) :
    Within Change (awaitMove surroundings patience) := by
  intro world
  rw [run_awaitMove]
  dsimp only
  split
  · split
    · exact Calm.settle world _
    · exact Membership.waitUntil_calm _ _ world
  · exact Membership.waitUntil_calm _ _ world

theorem admitBy_calm (obey : surroundings.Obey Change)
    (clear : Clears Change admissionFootprint) (patience : Patience)
    (protocol : Protocol) (request : Request) (remote : IpAddress) :
    Within Change (admitBy surroundings patience protocol request remote) := by
  simp only [Clears, admissionFootprint, List.forall_mem_cons] at clear
  have clearUpdate : Clears Change
      [Layout.addressUpdate.names, Layout.addressUpdate.temporary] := by
    simp [Clears, clear]
  have clearCallbacks : Clears Change [Layout.tokensLock.names, Layout.callbackTokens.names,
      Layout.callbackTokens.temporary] := by
    simp [Clears, clear]
  cases protocol with
  | legacy =>
      have answering : Within Change (do
          return ⟨none, nonempty? (etcdServers (← get).disk)⟩ : Activity Error Admitted) :=
        within_bind within_get fun _ => within_pure _
      unfold admitBy admitLegacy
      dsimp only
      split
      · exact answering
      · exact within_bind (onTokens_calm (Tokens.storeCallback_within _ _) clearCallbacks)
          fun _ => answering
  | replicatedStore =>
      unfold admitBy
      rw [admitToStore_eq]
      refine within_bind (holdMembership_calm patience) fun _ =>
        within_bind (within_adapt (onDisk_still_calm Membership.read_within)) fun snapshot => ?_
      unfold admitAsSeen
      split
      · exact within_throw _
      · split
        · split
          · exact within_throw _
          · exact within_bind
              (within_adapt (Membership.moveBootstrap_calm obey _ clearUpdate)) fun _ =>
                within_bind (awaitMove_calm patience) fun _ => within_pure _
        · exact within_pure _
  | etcdHa =>
      refine within_bind (holdMembership_calm patience) fun _ =>
        within_bind within_get fun world => ?_
      dsimp only
      split
      · exact within_bind (within_throw _) fun _ => within_pure _
      · exact within_pure _

theorem patchManifest_calm (obey : surroundings.Obey Change)
    (clear : Clears Change [Layout.networkManifest.names, Layout.networkManifest.temporary])
    (host : String) (apply : Bool) :
    Within Change (patchManifest surroundings host apply) := by
  refine within_bind (onDisk_calm (Autodetection.patchFile_within host) clear) fun changed => ?_
  dsimp only
  split
  · exact within_bind within_get fun world =>
      within_bind (within_tolerate (obey.applyManifest _)) fun _ => within_pure changed
  · exact within_pure changed

theorem workerCredentials_calm (obey : surroundings.Obey Change)
    (clear : Clears Change (Tokens.footprint .certificateRequest)) (request : Request) :
    Within Change (workerCredentials surroundings request) :=
  within_bind (onTokens_calm (Tokens.issueForWorker_within _) clear) fun _ =>
    within_bind (within_adapt obey.controlPlaneNodes) fun _ => within_pure _

theorem clusterKeyPair_within (protocol : Protocol) : Within Eq (clusterKeyPair protocol) := by
  rw [clusterKeyPair_eq]
  exact NodeState.readKeyPair_within _ _

/-- The keys of a member are read, and nothing is changed. -/
theorem memberCredentials_within (protocol : Protocol) (admitted : Admitted) :
    Within Eq (memberCredentials protocol admitted) :=
  within_bind (within_adapt (onDisk_still (clusterKeyPair_within protocol))) fun _ =>
    within_bind (within_adapt (onDisk_still (Disk.readWhole_within _))) fun _ =>
      within_bind (within_adapt (onDisk_still NodeState.adminToken_within)) fun _ =>
        within_bind (within_adapt (onDisk_still (Disk.readWhole_within _))) fun _ => within_pure _

theorem complete_calm (obey : surroundings.Obey Change)
    (clear : Clears Change completionFootprint) (protocol : Protocol)
    (request : Request) (remote : IpAddress) (override : Option String) (admitted : Admitted) :
    Within Change (complete surroundings protocol request remote override admitted) := by
  simp only [Clears, completionFootprint, List.forall_mem_cons] at clear
  have clearOwn : Clears Change [Layout.tokensLock.names, Layout.callbackToken.names,
      Layout.callbackToken.temporary] := by
    simp [Clears, clear]
  have clearManifest : Clears Change
      [Layout.networkManifest.names, Layout.networkManifest.temporary] := by
    simp [Clears, clear]
  have clearMarker : Clears Change [Layout.noReissueMarker.names] := by
    simp [Clears, clear]
  have marking : Within (Disk.ChangesOnly [Layout.noReissueMarker.names])
      NodeState.markNoReissue :=
    Disk.touch_within List.mem_cons_self
  refine within_bind (drawToken_calm surroundings) fun fresh =>
    within_bind (onTokens_calm (Tokens.ownCallback_within fresh) clearOwn) fun _ =>
      within_bind (onState_calm (Disk.readWhole_within _)) fun _ =>
        within_bind (onState_calm (Disk.readWhole_within _)) fun _ =>
          within_bind within_get fun _ =>
            within_bind (within_tolerate (patchManifest_calm obey clearManifest _ _)) fun _ =>
              within_bind (within_tolerate (onDisk_calm marking clearMarker)) fun _ => ?_
  dsimp only
  split
  · refine within_bind (workerCredentials_calm obey ?_ request) fun _ => within_pure _
    simp [Clears, Tokens.footprint, Tokens.Kind.place, clear]
  · exact within_bind (within_mono (memberCredentials_within protocol admitted)
      fun world _ same => same ▸ Std.Refl.refl world) fun _ => within_pure _

/-- What follows once the token is accepted changes nothing but what the admission and the
completion write. -/
theorem grant_calm (obey : surroundings.Obey Change)
    (clearAdmission : Clears Change admissionFootprint)
    (clearCompletion : Clears Change completionFootprint) (patience : Patience)
    (protocol : Protocol) (request : Request) :
    Within Change (grant surroundings patience protocol request) :=
  within_bind within_get fun _ => within_bind (fun _ => Std.Refl.refl _) fun remote =>
    within_bind (fun _ => Std.Refl.refl _) fun _ =>
      within_bind (admitBy_calm obey clearAdmission patience protocol request remote) fun _ =>
        complete_calm obey clearCompletion protocol request remote _ _

theorem join_calm (obey : surroundings.Obey Change)
    (clearSpending : Clears Change (Tokens.footprint .cluster))
    (clearAdmission : Clears Change admissionFootprint)
    (clearCompletion : Clears Change completionFootprint) (patience : Patience)
    (protocol : Protocol) (request : Request) :
    Within Change (join surroundings patience protocol request) := by
  rw [join_eq]
  refine within_bind within_get fun world =>
    within_bind (onTokens_calm Tokens.consume_within clearSpending) fun accepted => ?_
  split
  · exact grant_calm obey clearAdmission clearCompletion patience protocol request
  · exact within_throw _

end Calm

section Sparing

variable {surroundings : Surroundings} {names : List String} {touched : List (List String)}
  {α : Type}

theorem onTokens_spares {step : Disk.Step TokenError α}
    (changes : Within (Disk.ChangesOnly touched) step) (apart : names ∉ touched) :
    Within (Spares names) (onTokens step) :=
  onTokens_calm changes (clears_spares apart)

theorem holdMembership_spares (patience : Patience) :
    Within (Spares names) (holdMembership patience) :=
  holdMembership_calm patience

theorem awaitMove_spares (patience : Patience) :
    Within (Spares names) (awaitMove surroundings patience) :=
  awaitMove_calm patience

theorem complete_spares (leave : surroundings.LeaveAlone names)
    (apart : names ∉ completionFootprint) (protocol : Protocol) (request : Request)
    (remote : IpAddress) (override : Option String) (admitted : Admitted) :
    Within (Spares names) (complete surroundings protocol request remote override admitted) :=
  complete_calm leave.obey (clears_spares apart) protocol request remote
    override admitted

/-- What follows once the token is accepted leaves every file alone that neither the admission
nor the completion writes. -/
theorem grant_spares (leave : surroundings.LeaveAlone names)
    (notAdmission : names ∉ admissionFootprint) (notCompletion : names ∉ completionFootprint)
    (patience : Patience) (protocol : Protocol) (request : Request) :
    Within (Spares names) (grant surroundings patience protocol request) :=
  grant_calm leave.obey (clears_spares notAdmission)
    (clears_spares notCompletion) patience protocol request

end Sparing

end Join
end ClusterAgent
