import ClusterAgent.Proofs.Client.Install
import ClusterAgent.Proofs.Refusing
namespace ClusterAgent
namespace Install

open Disk Running

/-! ## Bundles that cannot be installed -/

/-- The bundle itself is at fault: it lacks keys, or its callback token or the peer that it is
for cannot stand on a line. -/
def IsUnfit : Error → Prop
  | .incomplete _ => True
  | .callback (.invalid _) => True
  | _ => False

section Parts

variable {protocol : Join.Protocol}

theorem setFlag_avoids (service flag value : String) :
    Avoids IsUnfit (setFlag service flag value) :=
  avoids_adapt _ fun _ unfit => unfit

theorem secret_avoids (place : Place) (text : String) : Avoids IsUnfit (secret place text) :=
  avoids_adapt _ fun _ unfit => unfit

theorem handOver_avoids (bundle : Bundle) : Avoids IsUnfit (handOver bundle) := by
  refine avoids_bind avoids_get fun disk => avoids_bind (avoids_adapt _ fun _ unfit => unfit)
    fun _ => avoids_bind (avoids_adapt _ fun _ unfit => unfit) fun _ => ?_
  unfold nameNode
  split
  · exact setFlag_avoids _ _ _
  · exact avoids_pure ()

/-- Where all keys are there, only a file may fail. -/
theorem withKeys_avoids (bundle : Bundle) (keys : Keys) :
    Avoids IsUnfit (withKeys protocol bundle keys) := by
  have installing : Avoids IsUnfit (installKeys protocol keys) :=
    avoids_bind (secret_avoids _ _) fun _ => avoids_bind (secret_avoids _ _) fun _ =>
      avoids_bind (secret_avoids _ _) fun _ => secret_avoids _ _
  have administering : Avoids IsUnfit (setAdmin bundle) := by
    unfold setAdmin
    split
    · exact avoids_adapt _ fun _ unfit => unfit
    · exact avoids_pure ()
  have flagging : Avoids IsUnfit (setServers bundle) := by
    unfold setServers
    split
    · exact setFlag_avoids _ _ _
    · exact avoids_pure ()
  refine avoids_bind installing fun _ => avoids_bind administering fun _ => ?_
  cases protocol with
  | replicatedStore => exact avoids_adapt _ fun _ unfit => unfit
  | legacy => exact flagging
  | etcdHa => exact flagging

end Parts

section Refusing

variable {protocol : Join.Protocol} {peer token : String} {bundle : Bundle} {error : Error}
  {before after : Disk}

/-- A member without all its keys is given up when everything else that it shares with workers is
installed. -/
theorem controlPlane_unfit (unfit : IsUnfit error)
    (ran : (controlPlane protocol peer bundle).run before = (.error error, after)) :
    error = .incomplete peer ∧ keysOf bundle = none ∧ after = before := by
  rw [controlPlane_eq] at ran
  split at ran
  · exact absurd unfit (withKeys_avoids bundle _ before error after ran)
  · rename_i lacking
    cases ran
    exact ⟨rfl, lacking, rfl⟩

/-- A callback token that cannot be stored is found out when the node was handed over the
certificate and the flags, and before anything else is written. -/
theorem common_unfit (unfit : IsUnfit error)
    (ran : (common peer bundle).run before = (.error error, after)) :
    (∃ reason, error = .callback (.invalid reason)) ∧ Handed bundle after ∧
      ChangesOnly handedFootprint before after := by
  rw [common_eq] at ran
  rcases bind_error ran with failed | ⟨_, middle, handed, failed⟩
  · exact absurd unfit (handOver_avoids bundle before error after failed)
  · have handing : ChangesOnly handedFootprint before middle :=
      (handOver_within bundle).reaches handed
    obtain ⟨cause, storing, rfl⟩ := adapt_error failed
    cases cause with
    | io path cause => exact absurd unfit id
    | invalid reason =>
        cases Tokens.storeCallback_invalid storing
        exact ⟨⟨reason, rfl⟩, handOver_ok handed, handing⟩

/-- A bundle that is unfit is installed as far as it goes: the node has the certificate of the
authority and its flags, and if it was given up over missing keys also the callback token. No
other file changes but the lock of the token lists. -/
theorem unfit_bundle_stops
    (ran : (install protocol peer token false bundle).run before = (.error error, after))
    (unfit : IsUnfit error) :
    Handed bundle after ∧
      (error = .incomplete peer ∧ keysOf bundle = none ∧
          Tokens.callbackIn (Peer.authority peer) after = some bundle.callbackToken ∧
          (∀ names, names ∉ handedFootprint ++ callbackFootprint →
            after.fileAt? names = before.fileAt? names) ∨
        (∃ reason, error = .callback (.invalid reason)) ∧
          ∀ names, names ∉ handedFootprint → after.fileAt? names = before.fileAt? names) := by
  rcases bind_error ran with failed | ⟨_, middle, shared, failed⟩
  · obtain ⟨invalid, handed, changes⟩ := common_unfit unfit failed
    exact ⟨handed, Or.inr ⟨invalid, fun names apart => changes.fileAt? apart⟩⟩
  · obtain ⟨rfl, lacking, rfl⟩ := controlPlane_unfit unfit failed
    have changes : ChangesOnly (handedFootprint ++ callbackFootprint) before after :=
      (common_within peer bundle).reaches shared
    obtain ⟨handed, callback⟩ := common_ok shared
    exact ⟨handed, Or.inl ⟨rfl, lacking, callback, fun names apart => changes.fileAt? apart⟩⟩

end Refusing

/-! ## A member without its keys -/

def keylessBundle : Bundle where
  authority := "CA CERT"
  callbackToken := "token-0"
  apiPort := "16443"
  authorizationMode := "AlwaysAllow"
  kubeletFlags := "--v=2\n"
  hostnameOverride := none
  voters := none
  serviceAccountKey := some "SA KEY"
  adminToken := some "root"
  authorityKey := none
  clusterCertificate := some "CERT"
  clusterKey := some "KEY"
  etcdServers := none
  controlPlaneNodes := []

def keylessInstalled : Disk :=
  ((install .etcdHa "10.0.0.1:25000" "abc" false keylessBundle).run (Disk.empty "/data")).2

theorem keylessBundle_refused :
    (install .etcdHa "10.0.0.1:25000" "abc" false keylessBundle).run (Disk.empty "/data") =
      (.error (.incomplete "10.0.0.1:25000"), keylessInstalled) :=
  run_of_errorOf? (by decide +kernel)

theorem keylessBundle_stops :
    IsUnfit (.incomplete "10.0.0.1:25000") ∧
      Handed keylessBundle keylessInstalled ∧
        (Error.incomplete "10.0.0.1:25000" = .incomplete "10.0.0.1:25000" ∧
            keysOf keylessBundle = none ∧
            Tokens.callbackIn (Peer.authority "10.0.0.1:25000") keylessInstalled =
              some keylessBundle.callbackToken ∧
            (∀ names, names ∉ handedFootprint ++ callbackFootprint →
              keylessInstalled.fileAt? names = (Disk.empty "/data").fileAt? names) ∨
          (∃ reason, Error.incomplete "10.0.0.1:25000" = .callback (.invalid reason)) ∧
            ∀ names, names ∉ handedFootprint →
              keylessInstalled.fileAt? names = (Disk.empty "/data").fileAt? names) :=
  ⟨trivial, unfit_bundle_stops keylessBundle_refused trivial⟩

/-- A bundle that is refused may leave files behind besides the lock. -/
theorem unfit_bundle_may_leave_files :
    ∃ after, (install .etcdHa "10.0.0.1:25000" "abc" false keylessBundle).run
          (Disk.empty "/data") = (.error (.incomplete "10.0.0.1:25000"), after) ∧
      Layout.authorityCertificate.names ≠ Layout.tokensLock.names ∧
        after.fileAt? Layout.authorityCertificate.names ≠
          (Disk.empty "/data").fileAt? Layout.authorityCertificate.names := by
  have written : (keylessInstalled.fileAt? Layout.authorityCertificate.names).isSome = true := by
    decide +kernel
  refine ⟨keylessInstalled, keylessBundle_refused, by decide, fun same => ?_⟩
  rw [same] at written
  cases written

end Install
end ClusterAgent
