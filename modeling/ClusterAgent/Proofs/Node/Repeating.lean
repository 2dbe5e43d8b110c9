import ClusterAgent.Proofs.Files.Repeating
import ClusterAgent.Proofs.Node.AdminRows
import ClusterAgent.Proofs.Node.Merging
import ClusterAgent.Proofs.Tokens.CallbackRuns
namespace ClusterAgent

open Disk Running Text

/-! ## Flags that are set again -/

namespace Flags

section Repeating

variable {service : String} {updates : Updates} {deletions : List String}

theorem changesLines_update (service : String)
    (some : (updates.isEmpty && deletions.isEmpty) = false) :
    ChangesLines (Layout.flags service) (change updates deletions)
      (update service updates deletions) where
  within := update_within (by simp) (by simp)
  leaves := by
    intro before after ran
    obtain ⟨allowed, wrote⟩ := update_writes some ran
    exact ⟨allowed, renewable_of_writeAtomic wrote, writeAtomic_stores wrote⟩
  runs := fun renewable read =>
    update_runs renewable.accepts (Or.inr ⟨_, read⟩) updates deletions

theorem settles_change (ordered : updates.Ordered) (onLines : updates.OnLines) :
    Settles (change updates deletions) := fun text free =>
  ⟨feed_not_mem_change onLines text, change_again ordered onLines fun _ lineMember member =>
    free (mem_of_mem_lines text lineMember member)⟩

end Repeating

end Flags

/-! ## An administrator's token that is set again -/

namespace NodeState

theorem rowsOn_eq (disk : Disk) :
    rowsOn disk = lines (characters Layout.knownTokens disk) := by
  rw [rowsOn, characters]
  rcases disk.textOf Layout.knownTokens with error | content
  · rfl
  · rfl

theorem changesLines_setAdminToken (token : String) :
    ChangesLines Layout.knownTokens (replaceAdminRow token.toList) (setAdminToken token) where
  within := setAdminToken_within token
  leaves := by
    intro before after ran
    have written := (setAdminToken_iff.mp ran).2
    rw [tableOf, rowsOn_eq] at written
    exact ⟨allowed_of_setAdminToken ran, (writeSecret_ok written).1, writeSecret_stores written⟩
  runs := by
    intro disk text renewable read
    obtain ⟨_, after, ran, _⟩ := writeSecret_renews Layout.knownTokens
      (tableOf (replaceAdminRow token.toList (rowsOn disk))) disk renewable
    refine ⟨after, setAdminToken_iff.mpr ⟨fun error failed => ?_, ran⟩⟩
    rw [read] at failed
    cases failed

theorem settles_replaceAdminRow {token : List Char} (isToken : IsAdminToken token) :
    Settles (replaceAdminRow token) := by
  intro text free
  have whole : (lines text).map withoutReturn = lines text :=
    map_withoutReturn_eq_self fun _ rowMember member =>
      free (mem_of_mem_lines text rowMember member)
  refine ⟨feed_not_mem_replaceAdminRow isToken (feed_not_mem_lines text), ?_⟩
  rw [map_withoutReturn_replaceAdminRow, whole, replaceAdminRow_replaceAdminRow isToken]

end NodeState

/-! ## Callback tokens that are stored again -/

namespace Tokens

section Lines

variable {peer token : List Char} (peerNonempty : peer ≠ []) (peerSolid : Solid peer)
  (tokenNonempty : token ≠ []) (tokenSolid : Solid token)
include peerNonempty peerSolid tokenNonempty tokenSolid

theorem replaceCallback_replaceCallback (lines : List (List Char)) :
    replaceCallback peer token (replaceCallback peer token lines) =
      replaceCallback peer token lines := by
  have own : (words (peer ++ ' ' :: token)).head? = some peer :=
    head?_of_isLineOf (isLineOf_entry peerNonempty peerSolid tokenNonempty tokenSolid)
  rw [replaceCallback, replaceCallback, List.filter_append, List.filter_filter,
    List.filter_singleton, own]
  simp

theorem settles_replaceCallback : Settles (replaceCallback peer token) := by
  intro text free
  have noReturn : ∀ line ∈ replaceCallback peer token (lines text), '\r' ∉ line :=
    blank_not_mem_replaceCallback peerSolid tokenSolid (by decide) (by decide)
      fun _ lineMember member => free (mem_of_mem_lines text lineMember member)
  refine ⟨blank_not_mem_replaceCallback peerSolid tokenSolid (by decide) (by decide)
    (feed_not_mem_lines text), ?_⟩
  rw [map_withoutReturn_eq_self noReturn,
    replaceCallback_replaceCallback peerNonempty peerSolid tokenNonempty tokenSolid]

end Lines

section Storing

variable {place : Place} {before after : Disk}

theorem readLines_characters {lines : Option (List (List Char))}
    (ran : (readLines place).run before = (.ok lines, after)) :
    after = before ∧ lines.getD [] = Text.lines (characters place before) := by
  refine ⟨((readLines_within place).reaches ran).symm, ?_⟩
  have given := run_readLines place before
  rw [ran] at given
  rw [characters]
  rcases read : before.textOf place with error | content
  · rw [read] at given
    dsimp only at given
    split at given
    · cases given
      rfl
    · cases given
  · rw [read] at given
    cases given
    rfl

/-- What a store does under the lock. -/
def replaceKept (peer token : String) : Step TokenError Unit := do
  let lines ← readLines Layout.callbackTokens
  write Layout.callbackTokens
    (Text.unlines (replaceCallback peer.toList token.toList (lines.getD [])))

theorem changesLines_replaceKept (peer token : String) :
    ChangesLines Layout.callbackTokens (replaceCallback peer.toList token.toList)
      (replaceKept peer token) where
  within := within_bind (within_of_still (readLines_within _)) fun _ =>
    write_within _ (by simp) (by simp)
  leaves := by
    intro before after ran
    obtain ⟨lines, _, ranRead, ranWrite⟩ := bind_ok ran
    obtain ⟨rfl, read⟩ := readLines_characters ranRead
    have written := write_iff.mp ranWrite
    rw [read] at written
    exact ⟨allowed_of_readLines ranRead, (writeSecret_ok written).1, writeSecret_stores written⟩
  runs := by
    intro disk text renewable read
    have ranRead : (readLines Layout.callbackTokens).run disk =
        (.ok (some (Text.lines text.toList)), disk) := by
      refine Prod.ext ?_ (readLines_within _ disk).symm
      rw [run_readLines, read]
    obtain ⟨_, after, written, _⟩ := writeSecret_renews Layout.callbackTokens
      (String.ofList (Text.unlines
        (replaceCallback peer.toList token.toList (Text.lines text.toList)))) disk renewable
    refine ⟨after, ?_⟩
    rw [replaceKept, run_bind, ranRead]
    exact write_iff.mpr written

/-- A lock that was taken is there and is taken again. -/
theorem repeatable_takeLock : Repeatable [Layout.tokensLock.names] takeLock where
  within := takeLock_within List.mem_cons_self
  readies := by
    intro before after _ ran
    obtain ⟨locks, content, isPrivate, lock⟩ := lock_of_takeLock ran
    refine ⟨fun disk => disk.entryAt? ["credentials"] = some .directory ∧
      disk.entryAt? Layout.tokensLock.names = some (.file content isPrivate) ∧
        disk.refuses .open Layout.tokensLock.names = none, ⟨?_, ?_, ?_⟩,
      takeLock_ok ran, lock, locks⟩
    · rintro disk ⟨directory, lock, locks⟩
      exact ⟨(), disk, takeLock_still directory ⟨content, isPrivate, lock⟩ locks, directory, lock,
        locks⟩
    · rintro others start finish apart changes ⟨directory, lock, locks⟩
      have clear : Clear others Layout.tokensLock := apart.clear List.mem_cons_self
      refine ⟨changes.keeps_front clear ⟨[".tokens.lock"], rfl⟩ directory,
        changes.keeps_front clear List.prefix_rfl lock, ?_⟩
      rw [changes.refuses]
      exact locks
    · rintro one other ⟨_, lockOne, _⟩ ⟨_, lockOther, _⟩ names member
      rw [List.mem_singleton.mp member, content?, content?, lockOne, lockOther]

theorem repeatable_storeCallback (peer token : String) :
    Repeatable [Layout.tokensLock.names, Layout.callbackTokens.names,
      Layout.callbackTokens.temporary] (storeCallback peer token) := by
  refine repeatable_given fun _ allowed => ?_
  split
  · exact repeatable_throw _ _
  rename_i acceptable
  simp only [Bool.or_eq_true, not_or] at acceptable
  obtain ⟨nonempty, noBlank⟩ := acceptable
  have peerSolid : Solid peer.toList := by simpa [Solid] using noBlank
  have settles : Settles (replaceCallback peer.toList token.toList) :=
    settles_replaceCallback (by simpa using nonempty) peerSolid
      (by simpa using ne_empty_of_checkToken allowed) (solid_of_checkToken allowed)
  exact repeatable_takeLock.bind ((changesLines_replaceKept peer token).repeatable settles)
    (by decide)

end Storing

end Tokens
end ClusterAgent
