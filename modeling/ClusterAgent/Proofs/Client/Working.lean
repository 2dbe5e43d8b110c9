import ClusterAgent.Proofs.Client.Install
import ClusterAgent.Proofs.Files.Tidy
namespace ClusterAgent

open Disk Running

section Parts

variable {files : List (List String)} (layered : Layered files)
include layered

/-! ## Parts of an installation that succeed -/

theorem Flags.update_works {service : String} (writable : Writable files (Layout.flags service))
    (updates : Updates) (deletions : List String) :
    Works (Tidy files) (update service updates deletions) := by
  unfold update
  split
  · exact works_pure ()
  · exact works_bind works_get fun _ =>
      works_bind (works_adapt (readOptional_works layered writable)) fun _ =>
        works_adapt (writeAtomic_works layered writable _)

theorem NodeState.setAdminToken_works (writable : Writable files Layout.knownTokens)
    (token : String) : Works (Tidy files) (setAdminToken token) :=
  works_bind works_get fun _ =>
    works_bind (works_adapt (readOptional_works layered writable)) fun _ =>
      writeSecret_works layered writable _

namespace Tokens

theorem takeLock_works (member : Layout.tokensLock.names ∈ files) :
    Works (Tidy files) takeLock := by
  refine works_bind works_get fun _ => works_adapt
    (works_bind (makeParent_works layered member) fun _ disk tidy => ?_)
  obtain ⟨opened, ran, tidyOpened, _⟩ := openFile_works member tidy
  exact ⟨(), opened, ran, tidyOpened⟩

theorem readLines_works {place : Place} (writable : Writable files place) :
    Works (Tidy files) (readLines place) :=
  works_bind works_get fun _ =>
    works_bind (works_adapt (readOptional_works layered writable)) fun _ => works_pure _

theorem write_works {place : Place} (writable : Writable files place) (text : List Char) :
    Works (Tidy files) (write place text) :=
  works_bind works_get fun _ => works_adapt
    (works_bind (writeAtomic_works layered writable _) fun _ => makePrivate_works)

/-- A token and a peer that can stand on a line are stored. -/
theorem storeCallback_works (lock : Layout.tokensLock.names ∈ files)
    (writable : Writable files Layout.callbackTokens) {peer token : String}
    (allowed : checkToken token = .ok ()) (nonempty : peer ≠ "")
    (solid : Text.Solid peer.toList) : Works (Tidy files) (storeCallback peer token) := by
  have acceptable : ¬(peer.isEmpty || peer.toList.any Text.isBlank) = true := by
    have noBlank : peer.toList.any Text.isBlank = false := by
      simpa [Text.Solid] using solid
    simp [nonempty, noBlank]
  unfold storeCallback
  rw [allowed, if_neg acceptable]
  exact works_bind (works_pure ()) fun _ => works_bind (takeLock_works layered lock) fun _ =>
    works_bind (readLines_works layered writable) fun _ => write_works layered writable _

theorem callbackFor_works (lock : Layout.tokensLock.names ∈ files)
    (writable : Writable files Layout.callbackTokens) (peer : String) :
    Works (Tidy files) (callbackFor peer) :=
  works_bind (takeLock_works layered lock) fun _ =>
    works_bind (readLines_works layered writable) fun _ => works_pure _

end Tokens

end Parts

namespace Install

/-! ## An installation that succeeds -/

/-- The files that an installed member has or had. -/
def memberFiles (protocol : Join.Protocol) : List (List String) :=
  handedFootprint ++ callbackFootprint ++ memberFootprint protocol

theorem layered_memberFiles (protocol : Join.Protocol) : Layered (memberFiles protocol) := by
  cases protocol <;> decide

section Installing

variable {protocol : Join.Protocol} {peer token : String} {bundle : Bundle} {keys : Keys}

theorem secret_works {place : Place} (writable : Writable (memberFiles protocol) place)
    (text : String) : Works (Tidy (memberFiles protocol)) (secret place text) :=
  works_adapt (writeSecret_works (layered_memberFiles protocol) writable text)

theorem setFlag_works {service : String}
    (writable : Writable (memberFiles protocol) (Layout.flags service)) (flag value : String) :
    Works (Tidy (memberFiles protocol)) (setFlag service flag value) :=
  works_adapt (Flags.update_works (layered_memberFiles protocol) writable _ _)

theorem common_works (allowed : Tokens.checkToken bundle.callbackToken = .ok ())
    (nonempty : Peer.authority peer ≠ "") (solid : Text.Solid (Peer.authority peer).toList) :
    Works (Tidy (memberFiles protocol)) (common peer bundle) := by
  have layered := layered_memberFiles protocol
  have certificate : Writable (memberFiles protocol) Layout.authorityCertificate := by
    cases protocol <;> decide
  have flags : Writable (memberFiles protocol) (Layout.flags "kubelet") := by
    cases protocol <;> decide
  have lock : Layout.tokensLock.names ∈ memberFiles protocol := by
    cases protocol <;> decide
  have callbacks : Writable (memberFiles protocol) Layout.callbackTokens := by
    cases protocol <;> decide
  have naming : Works (Tidy (memberFiles protocol)) (nameNode bundle) := by
    unfold nameNode
    split
    · exact setFlag_works flags _ _
    · exact works_pure ()
  rw [common_eq]
  refine works_bind (works_bind works_get fun _ =>
    works_bind (works_adapt (writeAtomic_works layered certificate _)) fun _ =>
      works_bind (works_adapt (writeAtomic_works layered flags _)) fun _ => naming) fun _ => ?_
  exact works_adapt (Tokens.storeCallback_works layered lock callbacks allowed nonempty solid)

theorem setServers_works
    (writable : Writable (memberFiles protocol) (Layout.flags "kube-apiserver"))
    (bundle : Bundle) : Works (Tidy (memberFiles protocol)) (setServers bundle) := by
  unfold setServers
  split
  · exact setFlag_works writable _ _
  · exact works_pure ()

theorem installStore_works (protocol : Join.Protocol) (bundle : Bundle) :
    Works (Tidy (memberFiles protocol)) (installStore protocol bundle) := by
  cases protocol with
  | replicatedStore =>
      exact works_adapt (touch_works (layered_memberFiles _) (by decide) (by decide))
  | legacy => exact setServers_works (by decide) bundle
  | etcdHa => exact setServers_works (by decide) bundle

theorem withKeys_works (protocol : Join.Protocol) (bundle : Bundle) (keys : Keys) :
    Works (Tidy (memberFiles protocol)) (withKeys protocol bundle keys) := by
  have places : ∀ place ∈ keyPlaces protocol, Writable (memberFiles protocol) place := by
    cases protocol <;> decide
  have known : Writable (memberFiles protocol) Layout.knownTokens := by
    cases protocol <;> decide
  have administering : Works (Tidy (memberFiles protocol)) (setAdmin bundle) := by
    unfold setAdmin
    split
    · exact works_adapt (NodeState.setAdminToken_works (layered_memberFiles protocol) known _)
    · exact works_pure ()
  have installing : Works (Tidy (memberFiles protocol)) (installKeys protocol keys) :=
    works_bind (secret_works (places _ (by simp [keyPlaces])) _) fun _ =>
      works_bind (secret_works (places _ (by simp [keyPlaces])) _) fun _ =>
        works_bind (secret_works (places _ (by simp [keyPlaces])) _) fun _ =>
          secret_works (places _ (by simp [keyPlaces])) _
  exact works_bind installing fun _ => works_bind administering fun _ =>
    installStore_works protocol bundle

/-- A bundle with all keys and a token that can stand on a line is installed. -/
theorem install_works (complete : keysOf bundle = some keys)
    (allowed : Tokens.checkToken bundle.callbackToken = .ok ())
    (nonempty : Peer.authority peer ≠ "") (solid : Text.Solid (Peer.authority peer).toList) :
    Works (Tidy (memberFiles protocol)) (install protocol peer token false bundle) := by
  refine works_bind (common_works allowed nonempty solid) fun _ => ?_
  rw [if_neg Bool.false_ne_true, controlPlane_eq, complete]
  exact withKeys_works protocol bundle keys

end Installing

end Install
end ClusterAgent
