import ClusterAgent.Node.Tokens
import ClusterAgent.Proofs.Files.Agreement
namespace ClusterAgent
namespace Tokens

open Disk Running

/-! ## Token operations on disks that differ in hidden entries -/

section Blindness

variable {hidden : List (List String)}

theorem takeLock_blind (lock : Apart hidden Layout.tokensLock.names) :
    Blind (AgreeOff hidden) takeLock := by
  have parent : Apart hidden ([] ++ Layout.tokensLock.parent) :=
    lock.of_prefix (List.dropLast_prefix _)
  refine blind_get (fun left right agree => ?_) fun disk => ?_
  · rw [agree.shown]
  · exact blind_adapt
      (blind_bind (makeDirectories_blind parent) fun _ => openFile_blind lock)

theorem readLines_blind {place : Place} (apart : Apart hidden place.names) :
    Blind (AgreeOff hidden) (readLines place) := by
  refine blind_get (fun left right agree => ?_) fun disk => ?_
  · rw [agree.shown]
  · exact blind_bind (blind_adapt (readOptional_blind apart)) fun _ => blind_pure _

theorem write_blind {place : Place} (replaceable : Replaceable hidden place)
    (text : List Char) : Blind (AgreeOff hidden) (write place text) := by
  refine blind_get (fun left right agree => ?_) fun disk => ?_
  · rw [agree.shown]
  · exact blind_adapt (blind_bind (writeAtomic_blind replaceable _) fun _ =>
      makePrivate_blind replaceable.target)

theorem consume_blind {kind : Kind} (lock : Apart hidden Layout.tokensLock.names)
    (replaceable : Replaceable hidden kind.place) (token : String) (now : Int) :
    Blind (AgreeOff hidden) (consume kind token now) := by
  unfold consume
  split
  · exact blind_pure false
  · refine blind_bind (takeLock_blind lock) fun _ =>
      blind_bind (readLines_blind replaceable.target) fun lines => ?_
    cases lines with
    | none => exact blind_pure false
    | some lines =>
        dsimp only
        split
        · exact blind_pure false
        · exact blind_bind (write_blind replaceable _) fun _ => blind_pure true

theorem issue_blind {kind : Kind} (lock : Apart hidden Layout.tokensLock.names)
    (replaceable : Replaceable hidden kind.place) (token : String) (expiry : Option Int) :
    Blind (AgreeOff hidden) (issue kind token expiry) :=
  blind_bind (fun _ _ agree => ⟨rfl, agree⟩) fun _ => blind_bind (takeLock_blind lock) fun _ =>
    blind_bind (readLines_blind replaceable.target) fun _ => write_blind replaceable _

theorem issueForWorker_blind (lock : Apart hidden Layout.tokensLock.names)
    (replaceable : Replaceable hidden (Kind.place .certificateRequest)) (base : String) :
    Blind (AgreeOff hidden) (issueForWorker base) :=
  blind_mapM fun _ => blind_bind (issue_blind lock replaceable _ _) fun _ => blind_pure _

theorem storeCallback_blind (lock : Apart hidden Layout.tokensLock.names)
    (replaceable : Replaceable hidden Layout.callbackTokens) (peer token : String) :
    Blind (AgreeOff hidden) (storeCallback peer token) := by
  have storing : Blind (AgreeOff hidden) (do
      takeLock
      let lines ← readLines Layout.callbackTokens
      write Layout.callbackTokens
        (Text.unlines (replaceCallback peer.toList token.toList (lines.getD [])))) :=
    blind_bind (takeLock_blind lock) fun _ =>
      blind_bind (readLines_blind replaceable.target) fun _ => write_blind replaceable _
  refine blind_bind (fun _ _ agree => ⟨rfl, agree⟩) fun _ => ?_
  dsimp only
  split
  · exact blind_bind (blind_throw _) fun _ => storing
  · exact storing

theorem ownCallback_blind (lock : Apart hidden Layout.tokensLock.names)
    (replaceable : Replaceable hidden Layout.callbackToken) (fresh : String) :
    Blind (AgreeOff hidden) (ownCallback fresh) := by
  refine blind_bind (takeLock_blind lock) fun _ =>
    blind_get (fun left right agree => ?_) fun disk => ?_
  · rw [agree.shown]
  · refine blind_bind (blind_adapt (readOptional_blind replaceable.target)) fun text => ?_
    dsimp only
    split
    · exact blind_pure _
    · exact blind_bind (write_blind replaceable _) fun _ => blind_pure _

end Blindness

end Tokens
end ClusterAgent
