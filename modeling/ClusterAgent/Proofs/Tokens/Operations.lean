import ClusterAgent.Proofs.Tokens.Files
namespace ClusterAgent
namespace Tokens

open Disk Running

/-! ## Spending a token -/

/-- The files that an operation on a list of tokens may write. -/
def footprint (kind : Kind) : List (List String) :=
  [Layout.tokensLock.names, kind.place.names, kind.place.temporary]

/-- The first entry that admits `token` is gone, and all others are still there in their
order. -/
def SpentFrom (token : String) (now : Int) (before after : List Entry) : Prop :=
  ∃ front entry back,
    before = front ++ entry :: back ∧ after = front ++ back ∧ Admits token now entry ∧
      ∀ earlier ∈ front, ¬Admits token now earlier

/-- The private file with these lines. -/
def fileOf (lines : List (List Char)) : ByteArray × Bool :=
  ((String.ofList (Text.unlines lines)).toUTF8, true)

/-- What a use of a token answers, and the file that it leaves of these lines. -/
inductive Spends (token : String) (now : Int) (lines : List (List Char)) :
    Bool → Option (ByteArray × Bool) → Prop
  | accepted {front back : List (List Char)} {line : List Char}
      (shape : lines = front ++ line :: back) (admits : Admits token now (Entry.ofLine line))
      (earliest : ∀ earlier ∈ front, ¬Admits token now (Entry.ofLine earlier)) :
      Spends token now lines true (some (fileOf (front ++ back)))
  | refused (noEntry : ∀ line ∈ lines, ¬Admits token now (Entry.ofLine line)) :
      Spends token now lines false none

/-- Nothing changes, or the lock is taken first and then only these files change. The lock may be
taken in vain. -/
inductive LockedChanges (files : List (List String)) : Disk → Disk → Prop
  | still (disk : Disk) : LockedChanges files disk disk
  | inVain {before after : Disk} {error : TokenError}
      (failed : takeLock.run before = (.error error, after)) : LockedChanges files before after
  | locked {before locked after : Disk} (taken : takeLock.run before = (.ok (), locked))
      (changes : ChangesOnly files locked after) : LockedChanges files before after

section Locking

variable {touched files : List (List String)} {before locked after : Disk}

theorem lockedChanges_bind {α : Type} {rest : Unit → Step TokenError α}
    (within : Within (ChangesOnly files) (rest ())) :
    Within (LockedChanges files) (takeLock >>= rest) := by
  intro disk
  rw [run_bind]
  rcases taken : takeLock.run disk with ⟨error | _, locked⟩
  · exact .inVain taken
  · exact .locked taken (within locked)

/-- What is decided without a look at the disk may stand before. -/
theorem lockedChanges_given {α β : Type} {given : Except TokenError α}
    {next : α → Step TokenError β} (within : ∀ value, Within (LockedChanges files) (next value)) :
    Within (LockedChanges files) ((ExceptT.mk (pure given) : Step TokenError α) >>= next) := by
  intro disk
  cases given with
  | error error => exact .still disk
  | ok value => exact within value disk

theorem LockedChanges.changes (changed : LockedChanges files before after)
    (lock : Layout.tokensLock.names ∈ touched) (included : files ⊆ touched) :
    ChangesOnly touched before after := by
  cases changed with
  | still => exact ChangesOnly.refl _ _
  | inVain failed => exact (takeLock_within lock).reaches failed
  | locked taken changes =>
      exact ((takeLock_within lock).reaches taken).trans (changes.mono included)

/-- Under the lock the lines are those that were there before it was taken. -/
theorem readLines_locked {place : Place} {lines : Option (List (List Char))}
    (tokenFile : IsTokenFile place) (notLock : place.names ≠ Layout.tokensLock.names)
    (ranLock : takeLock.run before = (.ok (), locked))
    (ranRead : (readLines place).run locked = (.ok lines, after)) :
    after = locked ∧ lines.getD [] = linesAt before place.names := by
  obtain ⟨same, read⟩ := readLines_ok tokenFile (takeLock_ok ranLock) ranRead
  have changes : ChangesOnly [Layout.tokensLock.names] before locked :=
    (takeLock_within List.mem_cons_self).reaches ranLock
  exact ⟨same, read.trans (linesAt_congr (changes.fileAt? (by simpa using notLock)))⟩

theorem place_ne_lock (kind : Kind) : kind.place.names ≠ Layout.tokensLock.names := by
  cases kind <;> decide

/-- The lock file is made before anything is looked at. -/
theorem locked_ends {α : Type} {place : Place} {gives : α → Option (ByteArray × Bool) → Prop}
    {rest : Unit → Step TokenError α}
    (ends : ∀ locked, takeLock.run before = (.ok (), locked) →
      Ending place [Layout.tokensLock.names] gives locked ((rest ()).run locked)) :
    Ending place [Layout.tokensLock.names] gives before ((takeLock >>= rest).run before) := by
  rw [run_bind]
  rcases taken : takeLock.run before with ⟨error | ⟨⟩, locked⟩
  · have locking : ChangesOnly (place.temporary :: [Layout.tokensLock.names]) before locked :=
      (takeLock_within (by simp)).reaches taken
    exact .failed locking
  · exact (ends locked taken).of_earlier ((takeLock_within List.mem_cons_self).reaches taken)

end Locking

section Spending

variable {kind : Kind} {token : String} {now : Int} {before after : Disk}

theorem consume_locked :
    Within (LockedChanges [kind.place.names, kind.place.temporary]) (consume kind token now) := by
  unfold consume
  split
  · exact fun disk => .still disk
  · refine lockedChanges_bind (within_bind (within_of_still (readLines_within _)) fun lines => ?_)
    cases lines with
    | none => exact within_pure false
    | some lines =>
        dsimp only
        split
        · exact within_pure false
        · exact within_bind (write_within _ (by simp) (by simp)) fun _ => within_pure true

theorem consume_within : Within (ChangesOnly (footprint kind)) (consume kind token now) :=
  within_mono consume_locked fun _ _ changed =>
    changed.changes (by simp [footprint]) (by simp [footprint])

/-- A token that is refused leaves the list as it is. -/
theorem spends_of_unspent {lines : List (List Char)}
    (unspent : spend token.toList now lines = none) : Spends token now lines false none := by
  refine .refused fun line member admits => ?_
  have refused := spend_eq_none unspent line member
  rw [(accepts_iff admits.nonempty).mpr admits] at refused
  cases refused

theorem spends_of_spent {lines kept : List (List Char)} (nonempty : token ≠ "")
    (spent : spend token.toList now lines = some kept) :
    Spends token now lines true (some (fileOf kept)) := by
  obtain ⟨front, line, back, shape, rfl, accepted, earliest⟩ := spend_eq_some spent
  refine .accepted shape ((accepts_iff nonempty).mp accepted) fun earlier member admits => ?_
  have refused := earliest earlier member
  rw [(accepts_iff nonempty).mpr admits] at refused
  cases refused

theorem consume_ends (kind : Kind) (token : String) (now : Int) :
    ReplacesWhole kind.place [Layout.tokensLock.names]
      (fun before => Spends token now (linesAt before kind.place.names))
      (consume kind token now) := by
  intro before
  unfold consume
  split
  · rename_i empty
    refine .unwritten (.refused fun line _ admits => ?_) (ChangesOnly.refl _ _)
    exact admits.nonempty (by simpa using empty)
  rename_i nonempty
  refine locked_ends fun locked taken => ?_
  refine Ending.bind_still (readLines_within _) fun lines ranRead => ?_
  obtain ⟨_, read⟩ :=
    readLines_locked (isTokenFile_place kind) (place_ne_lock kind) taken ranRead
  dsimp only
  rw [← read]
  cases lines with
  | none => exact .unwritten (spends_of_unspent rfl) (ChangesOnly.refl _ _)
  | some lines =>
      dsimp only [Option.getD_some]
      rcases spent : spend token.toList now lines with _ | kept
      · exact .unwritten (spends_of_unspent spent) (ChangesOnly.refl _ _)
      · refine Ending.bind_pure ((write_ends _ _ _ locked).imp fun _ file isFile => ?_)
        rw [isFile]
        exact spends_of_spent (by simpa using nonempty) spent

/-- A token is refused when no entry admits it, and then no file but the lock changes;
otherwise the first entry that admits it is gone. -/
theorem consume_ok {accepted : Bool}
    (ran : (consume kind token now).run before = (.ok accepted, after)) :
    accepted = false ∧ (∀ entry ∈ entriesIn kind before, ¬Admits token now entry) ∧
        ChangesOnly [Layout.tokensLock.names] before after ∨
      accepted = true ∧ SpentFrom token now (entriesIn kind before) (entriesIn kind after) ∧
        (∃ content, after.fileAt? kind.place.names = some (content, true)) ∧
          after.fileAt? kind.place.temporary = none := by
  have ending := consume_ends kind token now before
  rw [ran] at ending
  cases ending with
  | unwritten given changes =>
      cases given with
      | refused noEntry =>
          exact Or.inl ⟨rfl, List.forall_mem_map.mpr noEntry, changes⟩
  | written given stored gone changes =>
      cases given with
      | @accepted front back line shape admits earliest =>
          refine Or.inr ⟨rfl, ?_, ⟨_, stored⟩, fileAt?_of_absent gone⟩
          -- What was kept is read again from its text, so no line of it may hold a line feed.
          have noFeed : ∀ other ∈ front ++ back, '\n' ∉ other := by
            intro other member
            refine feed_not_mem_linesAt before kind.place.names other ?_
            rw [shape]
            rcases List.mem_append.mp member with member | member <;> simp [member]
          rw [entriesIn_of_unlines noFeed stored]
          refine ⟨front.map Entry.ofLine, Entry.ofLine line, back.map Entry.ofLine, ?_,
            List.map_append, admits, List.forall_mem_map.mpr earliest⟩
          rw [entriesIn, shape, List.map_append, List.map_cons]

end Spending

/-! ## Issuing tokens -/

section Issuing

variable {kind : Kind} {token : String} {expiry : Option Int} {before after : Disk}

theorem issue_locked :
    Within (LockedChanges [kind.place.names, kind.place.temporary]) (issue kind token expiry) := by
  refine lockedChanges_given fun _ => lockedChanges_bind ?_
  exact within_bind (within_of_still (readLines_within _)) fun _ =>
    write_within _ (by simp) (by simp)

theorem issue_within : Within (ChangesOnly (footprint kind)) (issue kind token expiry) :=
  within_mono issue_locked fun _ _ changed =>
    changed.changes (by simp [footprint]) (by simp [footprint])

theorem issue_ends (kind : Kind) (token : String) (expiry : Option Int) :
    ReplacesWhole kind.place [Layout.tokensLock.names]
      (fun before _ file =>
        file = some (fileOf (linesAt before kind.place.names ++ [(issued token expiry).toLine])))
      (issue kind token expiry) := by
  intro before
  refine Ending.bind_still (fun _ => rfl) fun _ _ => locked_ends fun locked taken => ?_
  refine Ending.bind_still (readLines_within _) fun lines ranRead => ?_
  obtain ⟨_, read⟩ :=
    readLines_locked (isTokenFile_place kind) (place_ne_lock kind) taken ranRead
  dsimp only
  rw [← read]
  exact write_ends _ _ _ locked

/-- A token that was issued has the last entry. -/
theorem issue_ok (ran : (issue kind token expiry).run before = (.ok (), after)) :
    entriesIn kind after = entriesIn kind before ++ [issued token expiry] := by
  obtain ⟨_, allowed, _⟩ := given_ok ran
  have ending := issue_ends kind token expiry before
  rw [ran] at ending
  have noFeed : ∀ line ∈ linesAt before kind.place.names ++ [(issued token expiry).toLine],
      '\n' ∉ line := by
    intro line member
    rcases List.mem_append.mp member with old | new
    · exact feed_not_mem_linesAt _ _ line old
    · rw [List.mem_singleton.mp new]
      exact feed_not_mem_toLine allowed expiry
  rw [entriesIn_of_unlines noFeed ending.stored, List.map_append, List.map_singleton,
    ofLine_toLine_issued allowed expiry]
  rfl

theorem issueForWorker_within (base : String) :
    Within (ChangesOnly (footprint .certificateRequest)) (issueForWorker base) :=
  within_mapM fun _ => within_bind issue_within fun _ => within_pure _

/-- A worker has its tokens at the end of the list, in the order of its parts. -/
theorem issueForWorker_ok {base : String} {tokens : List String}
    (ran : (issueForWorker base).run before = (.ok tokens, after)) :
    entriesIn .certificateRequest after =
      entriesIn .certificateRequest before ++
        workerRoles.map fun role => issued (workerToken base role) none := by
  unfold issueForWorker at ran
  -- The roles are fixed; the induction needs any list of them.
  generalize workerRoles = roles at ran ⊢
  induction roles generalizing before tokens with
  | nil =>
      obtain ⟨rfl, rfl⟩ := mapM_nil_ok ran
      rw [List.map_nil, List.append_nil]
  | cons role roles inductionHypothesis =>
      obtain ⟨_, _, middle, rfl, first, rest⟩ := mapM_cons_ok ran
      obtain ⟨_, _, ranIssue, returned⟩ := bind_ok first
      cases returned
      rw [inductionHypothesis rest, issue_ok ranIssue, List.map_cons, List.append_assoc,
        List.singleton_append]

end Issuing

/-! ## Callback tokens -/

section Callbacks

theorem storeCallback_locked (peer token : String) :
    Within (LockedChanges [Layout.callbackTokens.names, Layout.callbackTokens.temporary])
      (storeCallback peer token) := by
  refine lockedChanges_given fun _ => ?_
  split
  · exact fun disk => .still disk
  · exact lockedChanges_bind (within_bind (within_of_still (readLines_within _)) fun _ =>
      write_within _ (by simp) (by simp))

theorem storeCallback_within (peer token : String) :
    Within
      (ChangesOnly [Layout.tokensLock.names, Layout.callbackTokens.names,
        Layout.callbackTokens.temporary])
      (storeCallback peer token) :=
  within_mono (storeCallback_locked peer token) fun _ _ changed =>
    changed.changes (by simp) (by simp)

theorem storeCallback_ends (peer token : String) :
    ReplacesWhole Layout.callbackTokens [Layout.tokensLock.names]
      (fun before _ file =>
        file = some (fileOf (replaceCallback peer.toList token.toList
          (linesAt before Layout.callbackTokens.names))))
      (storeCallback peer token) := by
  intro before
  refine Ending.bind_still (fun _ => rfl) fun _ _ => ?_
  split
  · exact .failed (ChangesOnly.refl _ _)
  refine locked_ends fun locked taken => ?_
  refine Ending.bind_still (readLines_within _) fun lines ranRead => ?_
  obtain ⟨_, read⟩ := readLines_locked ⟨rfl, _, rfl⟩ (by decide) taken ranRead
  dsimp only
  rw [← read]
  exact write_ends _ _ _ locked

theorem ownCallback_locked (fresh : String) :
    Within (LockedChanges [Layout.callbackToken.names, Layout.callbackToken.temporary])
      (ownCallback fresh) := by
  refine lockedChanges_bind (within_bind within_get fun disk =>
    within_bind (within_adapt (within_of_still (readOptional_within _))) fun text => ?_)
  dsimp only
  split
  · exact within_pure _
  · exact within_bind (write_within _ (by simp) (by simp)) fun _ => within_pure _

theorem ownCallback_within (fresh : String) :
    Within
      (ChangesOnly [Layout.tokensLock.names, Layout.callbackToken.names,
        Layout.callbackToken.temporary])
      (ownCallback fresh) :=
  within_mono (ownCallback_locked fresh) fun _ _ changed => changed.changes (by simp) (by simp)

end Callbacks

end Tokens
end ClusterAgent
