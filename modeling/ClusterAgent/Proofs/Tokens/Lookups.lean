import ClusterAgent.Proofs.Tokens.Presenting
namespace ClusterAgent
namespace Tokens

open Disk Running Text

/-! ## Taking the lock again -/

section Again

variable {touched : List (List String)} {before locked after : Disk} {error : TokenError}

theorem makeDirectory_failed {name : String} {cause : IoError}
    (ran : (makeDirectories [] [name]).run before = (.error cause, after)) : after = before := by
  rw [makeDirectories, run_bind, run_get] at ran
  dsimp only at ran
  split at ran
  · cases ran
  · cases ran
    rfl
  · rcases bind_error ran with failed | ⟨_, _, _, ran⟩
    · exact ((attempt_within _ _).reaches failed).symm
    · cases ran

theorem openFile_failed {names : List String} {cause : IoError}
    (ran : (openFile names).run before = (.error cause, after)) : after = before := by
  rcases bind_error ran with failed | ⟨_, _, tried, ran⟩
  · exact ((attempt_within _ _).reaches failed).symm
  cases attempt_ok tried
  rcases bind_error ran with failed | ⟨_, _, fetched, ran⟩
  · cases failed
  cases fetched
  split at ran
  · cases ran
    rfl
  · cases ran
  · cases ran

/-- A lock that cannot be taken cannot be taken the next time, for the same reason. -/
theorem takeLock_failed (ran : takeLock.run before = (.error error, after)) :
    (takeLock.run after).1 = .error error := by
  obtain ⟨cause, taking, isIo⟩ : ∃ cause,
      (do
        makeDirectories [] Layout.tokensLock.parent
        openFile Layout.tokensLock.names : Step IoError Unit).run before = (.error cause, after) ∧
        TokenError.io (before.shown Layout.tokensLock) cause = error := by
    rcases bind_error ran with failed | ⟨_, _, fetched, ran⟩
    · cases failed
    cases fetched
    exact adapt_error ran
  rcases bind_error taking with failed | ⟨_, made, making, opening⟩
  · rw [makeDirectory_failed failed] at ran ⊢
    rw [ran]
  · obtain rfl := openFile_failed opening
    have opens := (makeDirectories_opens _ _).reaches making
    have still : (makeDirectories [] Layout.tokensLock.parent).run after = (.ok (), after) :=
      makeDirectories_still (makeDirectories_ok making)
    have shown : after.shown Layout.tokensLock = before.shown Layout.tokensLock := by
      rw [Disk.shown, Disk.shown, opens.root]
    rw [takeLock, run_bind, run_get]
    dsimp only
    rw [run_adapt, run_bind, still]
    dsimp only
    rw [opening, shown, ← isIo]
    rfl

/-- Files beside the tokens that are kept for peers, and beside the lock. -/
structure Beside (files : List (List String)) : Prop where
  lock : Layout.tokensLock.names ∉ files
  clear : Clear files Layout.callbackTokens
  aside : ∀ names ∈ files, ¬Layout.callbackTokens.names <+: names

theorem takeLock_held (taken : takeLock.run before = (.ok (), locked))
    (changes : ChangesOnly touched locked after) (lock : Layout.tokensLock.names ∉ touched)
    (directory : ["credentials"] ∉ touched) : takeLock.run after = (.ok (), after) := by
  obtain ⟨locks, content, isPrivate, present⟩ := lock_of_takeLock taken
  rw [← changes.refuses] at locks
  exact takeLock_still (changes.keeps directory (takeLock_ok taken))
    ⟨content, isPrivate, changes.keeps lock present⟩ locks

end Again

/-! ## What is found for a peer -/

/-- What a look-up of the token for a peer gives. -/
def lookup (peer : String) (disk : Disk) : Except TokenError (Option String) :=
  ((callbackFor peer).run disk).1

/-- For every peer the same is found, and the file is the same. -/
structure KeepsCallbacks (before after : Disk) : Prop where
  found : ∀ peer, lookup peer after = lookup peer before
  file : after.fileAt? Layout.callbackTokens.names = before.fileAt? Layout.callbackTokens.names

instance : Std.Refl KeepsCallbacks :=
  ⟨fun _ => ⟨fun _ => rfl, rfl⟩⟩

instance : Trans KeepsCallbacks KeepsCallbacks KeepsCallbacks :=
  ⟨fun first second =>
    ⟨fun peer => (second.found peer).trans (first.found peer), second.file.trans first.file⟩⟩

section Finding

variable {files : List (List String)} {before locked after : Disk} {error : TokenError}
  {peer other token : String}

theorem lookup_failed (failed : takeLock.run before = (.error error, after)) :
    lookup peer before = .error error := by
  rw [lookup, callbackFor, run_bind, failed]

theorem lookup_locked (taken : takeLock.run before = (.ok (), locked)) :
    lookup peer before =
      ((readLines Layout.callbackTokens).run locked).1.map fun lines =>
        ((lines.getD []).findSome? (callbackOn peer.toList)).map String.ofList := by
  rw [lookup, callbackFor, run_bind, taken]
  dsimp only
  rw [run_bind]
  rcases (readLines Layout.callbackTokens).run locked with ⟨error | lines, read⟩
  · rfl
  · rfl

theorem run_readLines (place : Place) (disk : Disk) :
    ((readLines place).run disk).1 =
      match disk.textOf place with
      | .ok text => .ok (some (lines text.toList))
      | .error error =>
          if error = .notFound then .ok none else .error (.io (disk.shown place) error) := by
  rw [readLines, run_bind, run_get]
  dsimp only
  rw [run_bind, run_adapt, run_readOptional]
  rcases disk.textOf place with error | text
  · by_cases missing : error = .notFound
    · simp only [if_pos missing]
      rfl
    · simp only [if_neg missing]
      rfl
  · rfl

theorem readLines_beside (beside : Beside files) (changes : ChangesOnly files locked after)
    (directory : locked.entryAt? ["credentials"] = some .directory) :
    ((readLines Layout.callbackTokens).run after).1 =
      ((readLines Layout.callbackTokens).run locked).1 := by
  have shown : after.shown Layout.callbackTokens = locked.shown Layout.callbackTokens := by
    rw [Disk.shown, Disk.shown, changes.root]
  have text : after.textOf Layout.callbackTokens = locked.textOf Layout.callbackTokens :=
    changes.textOf_beside (reaches_pair directory) (by decide) beside.clear beside.aside
  rw [run_readLines, run_readLines, shown, text]

theorem lookup_beside (beside : Beside files) (taken : takeLock.run before = (.ok (), locked))
    (changes : ChangesOnly files locked after) : lookup peer after = lookup peer before := by
  have directory : ["credentials"] ∉ files :=
    fun member => beside.clear _ member ⟨["callback-tokens.txt"], rfl⟩
  rw [lookup_locked taken, lookup_locked (takeLock_held taken changes beside.lock directory),
    readLines_beside beside changes (takeLock_ok taken)]

/-- What is done under the lock beside the file changes nothing that is found in it. -/
theorem keepsCallbacks_of_changes (beside : Beside files)
    (changed : LockedChanges files before after) : KeepsCallbacks before after := by
  have notLock : Layout.callbackTokens.names ≠ Layout.tokensLock.names := by decide
  have apart : Layout.callbackTokens.names ∉ Layout.tokensLock.names :: files := by
    rw [List.mem_cons, not_or]
    exact ⟨notLock, fun member => beside.aside _ member List.prefix_rfl⟩
  refine ⟨fun peer => ?_, (changed.changes (by simp) (by simp)).fileAt? apart⟩
  cases changed with
  | still => rfl
  | inVain failed =>
      rw [lookup_failed failed, lookup_failed (Prod.ext (takeLock_failed failed) rfl)]
  | locked taken changes => exact lookup_beside beside taken changes

/-! ## What a store changes -/

theorem write_failed {place : Place} {text : List Char}
    (ran : (write place text).run before = (.error error, after)) :
    ChangesOnly [place.temporary] before after := by
  have ending := write_ends place text [] before
  rw [ran] at ending
  exact ending.error_changes

/-- A store that fails has at most left something beside the file. -/
theorem storeCallback_failed
    (ran : (storeCallback peer token).run before = (.error error, after)) :
    LockedChanges [Layout.callbackTokens.temporary] before after := by
  rcases given_cases ran with ⟨_, _, rfl⟩ | ⟨_, _, ran⟩
  · exact .still _
  split at ran
  · cases ran
    exact .still _
  rcases bind_error ran with failed | ⟨_, locked, taken, ran⟩
  · exact .inVain failed
  rcases bind_error ran with failed | ⟨_, _, reading, ran⟩
  · exact .locked taken ((within_of_still (readLines_within _)).reaches failed)
  · cases (readLines_within _).reaches reading
    exact .locked taken (write_failed ran)

/-- Before a store and after it what is found is what stands in the file. -/
theorem lookup_stored (other : String)
    (ran : (storeCallback peer token).run before = (.ok (), after)) :
    lookup other before = .ok (callbackIn other before) ∧
      lookup other after = .ok (callbackIn other after) := by
  obtain ⟨_, allowed, ran⟩ := given_ok ran
  split at ran
  · cases ran
  obtain ⟨_, locked, taken, ran⟩ := bind_ok ran
  obtain ⟨lines, _, ranRead, ranWrite⟩ := bind_ok ran
  obtain ⟨rfl, read⟩ := readLines_locked ⟨rfl, _, rfl⟩ (by decide) taken ranRead
  constructor
  · rw [lookup_locked taken, ranRead]
    dsimp only [Except.map]
    rw [read, callbackIn]
  · have changes : ChangesOnly [Layout.callbackTokens.names, Layout.callbackTokens.temporary] _
        after := (write_within _ (by simp) (by simp)).reaches ranWrite
    have held := takeLock_held taken changes (by decide) (by decide)
    have readable : after.refuses .read Layout.callbackTokens.names = none := by
      rw [changes.refuses]
      exact allowed_of_readLines ranRead
    have text := (write_stores ranWrite).textOf rfl (by decide) readable
    have given := run_readLines Layout.callbackTokens after
    rw [text] at given
    obtain ⟨_, found⟩ := readLines_ok ⟨rfl, _, rfl⟩ (takeLock_ok held) (Prod.ext given rfl)
    rw [lookup_locked held, given]
    dsimp only [Except.map]
    rw [found, callbackIn]

end Finding

end Tokens
end ClusterAgent
