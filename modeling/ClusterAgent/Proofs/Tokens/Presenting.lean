import ClusterAgent.Proofs.Files.Renewing
import ClusterAgent.Proofs.Refusing
import ClusterAgent.Proofs.Tokens.Callbacks
import ClusterAgent.Proofs.Tokens.Runs
import Mathlib.Data.List.Nodup
namespace ClusterAgent
namespace Tokens

open Disk Running

/-! ## Lists that can be used again -/

/-- The lock is there and can be taken, and the list of a kind can be read and replaced. -/
structure Usable (kind : Kind) (disk : Disk) : Prop where
  list : Renewable kind.place disk
  reads : disk.refuses .read kind.place.names = none
  lock : ∃ content isPrivate,
    disk.entryAt? Layout.tokensLock.names = some (.file content isPrivate)
  locks : disk.refuses .open Layout.tokensLock.names = none

section Working

variable {kind : Kind} {ε α : Type} {before after : Disk}

theorem Usable.directory (usable : Usable kind before) :
    before.entryAt? ["credentials"] = some .directory := by
  obtain ⟨name, shape⟩ := (isTokenFile_place kind).name
  exact usable.list.way ["credentials"] [name] shape (by simp) (by simp)

/-- What renews the list and writes nothing else keeps it usable. -/
theorem works_of_renews {step : Step ε α} (renews : Works (Renewable kind.place) step)
    (changes : Within (ChangesOnly [kind.place.names, kind.place.temporary]) step) :
    Works (Usable kind) step := by
  intro before usable
  obtain ⟨value, after, ran, renewable⟩ := renews before usable.list
  have changed := changes.reaches ran
  obtain ⟨content, isPrivate, lock⟩ := usable.lock
  have lockApart : Layout.tokensLock.names ∉ [kind.place.names, kind.place.temporary] := by
    cases kind <;> decide
  refine ⟨value, after, ran, renewable, ?_, ⟨content, isPrivate, changed.keeps lockApart lock⟩, ?_⟩
  · rw [changed.refuses]
    exact usable.reads
  · rw [changed.refuses]
    exact usable.locks

/-- A lock that is there is taken without a change. -/
theorem takeLock_still (directory : before.entryAt? ["credentials"] = some .directory)
    (lock : ∃ content isPrivate,
      before.entryAt? Layout.tokensLock.names = some (.file content isPrivate))
    (locks : before.refuses .open Layout.tokensLock.names = none) :
    takeLock.run before = (.ok (), before) := by
  obtain ⟨content, isPrivate, lock⟩ := lock
  have way : before.Reaches Layout.tokensLock.names :=
    reaches_of_tokenFile ⟨rfl, _, rfl⟩ directory
  have parent := parent_still (by decide) way
  have opened := openFile_present locks lock
  rw [takeLock, run_bind, run_get]
  dsimp only
  rw [run_adapt, run_bind, parent]
  dsimp only
  rw [opened]
  rfl

theorem takeLock_usable : Works (Usable kind) takeLock :=
  fun disk usable => ⟨(), disk, takeLock_still usable.directory usable.lock usable.locks, usable⟩

theorem readLines_usable : Works (Usable kind) (readLines kind.place) := by
  refine works_bind works_get fun _ => works_bind (works_adapt fun disk usable => ?_) fun _ =>
    works_pure _
  obtain ⟨text, isPrivate, file⟩ := usable.list.file
  have stored : disk.Stores kind.place text := ⟨usable.list.way, isPrivate, file⟩
  have read := stored.textOf usable.list.plain usable.list.nonempty usable.reads
  refine ⟨some text, disk, ?_, usable⟩
  rw [run_readOptional, read]

theorem write_usable (text : List Char) : Works (Usable kind) (write kind.place text) := by
  refine works_of_renews ?_ (write_within text (by simp) (by simp))
  exact works_bind works_get fun _ => works_adapt
    (works_bind (writeAtomic_renews _ _) fun _ => makePrivate_renews _)

theorem consume_usable (token : String) (now : Int) :
    Works (Usable kind) (consume kind token now) := by
  unfold consume
  split
  · exact works_pure false
  · refine works_bind takeLock_usable fun _ => works_bind readLines_usable fun lines => ?_
    cases lines with
    | none => exact works_pure false
    | some lines =>
        dsimp only
        split
        · exact works_pure false
        · exact works_bind (write_usable _) fun _ => works_pure true

theorem lock_of_takeLock (ran : takeLock.run before = (.ok (), after)) :
    after.refuses .open Layout.tokensLock.names = none ∧
      ∃ content isPrivate,
        after.entryAt? Layout.tokensLock.names = some (.file content isPrivate) := by
  obtain ⟨_, _, fetched, ran⟩ := bind_ok ran
  cases fetched
  obtain ⟨_, made, _, opening⟩ := bind_ok (adapt_ok ran)
  have opened : ChangesOnly [Layout.tokensLock.names] made after :=
    (openFile_within (by simp)).reaches opening
  refine ⟨?_, ?_⟩
  · rw [opened.refuses]
    exact allowed_of_openFile opening
  · rcases openFile_ok opening with ⟨present, rfl⟩ | ⟨_, rfl⟩
    · exact present
    · exact ⟨_, _, entryAt?_put_self made _ _⟩

theorem allowed_of_readLines {place : Place} {lines : Option (List (List Char))}
    (ran : (readLines place).run before = (.ok lines, after)) :
    before.refuses .read place.names = none := by
  obtain ⟨_, _, fetched, ran⟩ := bind_ok ran
  cases fetched
  obtain ⟨_, _, read, _⟩ := bind_ok ran
  exact (readOptional_ok (adapt_ok read)).2.1

/-- Where a token was issued others can be issued and presented. -/
theorem usable_of_issue {token : String} {expiry : Option Int}
    (ran : (issue kind token expiry).run before = (.ok (), after)) : Usable kind after := by
  obtain ⟨_, _, ran⟩ := given_ok ran
  obtain ⟨_, _, ranLock, ran⟩ := bind_ok ran
  obtain ⟨lines, locked, ranRead, ranWrite⟩ := bind_ok ran
  obtain ⟨rfl, _⟩ :=
    readLines_locked (isTokenFile_place kind) (place_ne_lock kind) ranLock ranRead
  have reads := allowed_of_readLines ranRead
  obtain ⟨locks, content, isPrivate, lock⟩ := lock_of_takeLock ranLock
  have writing : ChangesOnly [kind.place.names, kind.place.temporary] locked after :=
    (write_within _ (by simp) (by simp)).reaches ranWrite
  have lockApart : Layout.tokensLock.names ∉ [kind.place.names, kind.place.temporary] := by
    cases kind <;> decide
  obtain ⟨renewable, _⟩ := writeSecret_ok (write_iff.mp ranWrite)
  refine ⟨renewable, ?_, ⟨content, isPrivate, writing.keeps lockApart lock⟩, ?_⟩
  · rw [writing.refuses]
    exact reads
  · rw [writing.refuses]
    exact locks

theorem usable_of_issueForWorker {base : String} {tokens : List String}
    (ran : (issueForWorker base).run before = (.ok tokens, after)) :
    Usable .certificateRequest after := by
  have some : workerRoles ≠ [] := by decide
  unfold issueForWorker at ran
  -- The roles are fixed; the induction needs any list of them that is not empty.
  generalize workerRoles = roles at ran some
  induction roles generalizing before tokens with
  | nil => exact absurd rfl some
  | cons role roles inductionHypothesis =>
      obtain ⟨_, _, middle, rfl, first, rest⟩ := mapM_cons_ok ran
      by_cases last : roles = []
      · subst last
        obtain ⟨_, rfl⟩ := mapM_nil_ok rest
        obtain ⟨_, _, ranIssue, returned⟩ := bind_ok first
        cases returned
        exact usable_of_issue ranIssue
      · exact inductionHypothesis rest last

end Working

/-! ## Presenting tokens -/

/-- The use presents some token for the list of a kind. -/
def Use.IsPresentation (kind : Kind) (use : Use) : Prop :=
  ∃ token now, use = .consume kind token now

theorem presentations_usable {kind : Kind} {uses : List Use}
    (presentations : ∀ use ∈ uses, use.IsPresentation kind) :
    Works (Usable kind) (performAll uses) := by
  refine works_mapM fun use member => ?_
  obtain ⟨token, now, rfl⟩ := presentations use member
  exact works_bind (consume_usable token now) fun _ => works_pure _

section Presenting

variable {kind : Kind} {token : String} {use : Use} {uses front back : List Use}
  {answer : Option Bool} {answers : List (Option Bool)} {before after : Disk}

theorem entriesIn_of_refused (same : after.fileAt? kind.place.names =
    before.fileAt? kind.place.names) : entriesIn kind after = entriesIn kind before := by
  rw [entriesIn, entriesIn, linesAt_congr same]

/-- An entry stays as long as its token is not presented. -/
theorem mem_of_effect {entry : Entry} (ofToken : entry.token = token.toList)
    (effect : Effect use answer before after) (notPresented : use.presents kind token = false)
    (member : entry ∈ entriesIn kind before) : entry ∈ entriesIn kind after := by
  cases effect with
  | @issued listed _ _ _ _ added others =>
      by_cases same : listed = kind
      · subst same
        rw [added]
        exact List.mem_append_left _ member
      · rwa [others.entriesIn same]
  | issuedForWorker added others =>
      by_cases same : Kind.certificateRequest = kind
      · subst same
        rw [added]
        exact List.mem_append_left _ member
      · rwa [others.entriesIn same]
  | @accepted listed presented _ _ _ spent others =>
      by_cases same : listed = kind
      · subst same
        obtain ⟨earlier, gone, later, wasThere, isThere, admits, _⟩ := spent
        have different : presented ≠ token := by simpa [Use.presents] using notPresented
        rw [wasThere, List.mem_append, List.mem_cons] at member
        rw [isThere, List.mem_append]
        rcases member with inFront | rfl | inBack
        · exact Or.inl inFront
        · rw [admits.token, String.toList_inj] at ofToken
          exact absurd ofToken different
        · exact Or.inr inBack
      · rwa [others.entriesIn same]
  | @refused listed _ _ _ _ _ unchanged others =>
      by_cases same : listed = kind
      · subst same
        rwa [entriesIn_of_refused unchanged]
      · rwa [others.entriesIn same]

theorem accepted_of_effect (nonempty : token ≠ "") (effect : Effect use answer before after)
    (presented : use.presents kind token = true)
    (member : ⟨token.toList, none⟩ ∈ entriesIn kind before) : answer = some true := by
  cases effect with
  | issued => cases presented
  | issuedForWorker => cases presented
  | accepted => rfl
  | refused noEntry =>
      simp only [Use.presents, Bool.and_eq_true, beq_iff_eq] at presented
      obtain ⟨rfl, rfl⟩ := presented
      refine absurd ⟨nonempty, rfl, ?_⟩ (noEntry _ member)
      intro time expires
      cases expires

/-- The first presentation of a token that does not expire is accepted, whatever was presented
and issued before it. -/
theorem accepted_of_chronicle (nonempty : token ≠ "")
    (chronicle : Chronicle (front ++ use :: back) answers before after)
    (notBefore : ∀ earlier ∈ front, earlier.presents kind token = false)
    (presented : use.presents kind token = true)
    (member : ⟨token.toList, none⟩ ∈ entriesIn kind before) :
    ∃ earlier later, answers = earlier ++ some true :: later ∧ earlier.length = front.length := by
  induction front generalizing answers before with
  | nil =>
      rcases chronicle with _ | ⟨effect, rest⟩
      rw [accepted_of_effect nonempty effect presented member]
      exact ⟨[], _, rfl, rfl⟩
  | cons first front inductionHypothesis =>
      rcases chronicle with _ | ⟨effect, rest⟩
      obtain ⟨notFirst, notLater⟩ := List.forall_mem_cons.mp notBefore
      have stays := mem_of_effect rfl effect notFirst member
      obtain ⟨earlier, later, rfl, length⟩ := inductionHypothesis rest notLater stays
      exact ⟨_ :: earlier, later, rfl, by rw [List.length_cons, length, List.length_cons]⟩

/-- The first presentation of `token` for the list of a kind is accepted. -/
def FirstAccepted (kind : Kind) (token : String) (uses : List Use)
    (answers : List (Option Bool)) : Prop :=
  ∀ front use back, uses = front ++ use :: back →
    (∀ earlier ∈ front, earlier.presents kind token = false) → use.presents kind token = true →
      ∃ earlier later, answers = earlier ++ some true :: later ∧ earlier.length = front.length

theorem firstAccepted_of_chronicle (nonempty : token ≠ "")
    (chronicle : Chronicle uses answers before after)
    (member : ⟨token.toList, none⟩ ∈ entriesIn kind before) :
    FirstAccepted kind token uses answers := by
  rintro front use back rfl notBefore presented
  exact accepted_of_chronicle nonempty chronicle notBefore presented member

theorem timesAccepted_pos (first : FirstAccepted kind token uses answers)
    (presented : ∃ use ∈ uses, use.presents kind token = true) :
    0 < timesAccepted kind token uses answers := by
  obtain ⟨use, found⟩ := Option.isSome_iff_exists.mp (List.find?_isSome.mpr presented)
  obtain ⟨presents, front, back, split, notBefore⟩ := List.find?_eq_some_iff_append.mp found
  have notEarlier : ∀ earlier ∈ front, earlier.presents kind token = false :=
    fun earlier member => by simpa using notBefore earlier member
  obtain ⟨earlier, later, rfl, length⟩ := first front use back split notEarlier presents
  rw [timesAccepted, split, List.zip_append length.symm, List.countP_append, List.zip_cons_cons,
    List.countP_cons_of_pos (by simpa using presents)]
  omega

/-- A token with a single entry that does not expire is accepted once, however often it is
presented. -/
theorem timesAccepted_eq_one (nonempty : token ≠ "")
    (chronicle : Chronicle uses answers before after)
    (member : ⟨token.toList, none⟩ ∈ entriesIn kind before)
    (single : copies token (entriesIn kind before) = 1)
    (notIssued : timesIssued kind token uses = 0)
    (presented : ∃ use ∈ uses, use.presents kind token = true) :
    timesAccepted kind token uses answers = 1 := by
  have atLeastOnce := timesAccepted_pos
    (firstAccepted_of_chronicle nonempty chronicle member) presented
  have balance := copies_of_chronicle chronicle kind token
  omega

end Presenting

/-! ## Tokens of a worker -/

section Workers

variable {base role : String} {before after : Disk}

theorem toList_workerToken (base role : String) :
    (workerToken base role).toList = base.toList ++ '-' :: role.toList := by
  change (base ++ "-" ++ role).toList = _
  rw [String.toList_append, String.toList_append, List.append_assoc]
  rfl

theorem workerToken_ne_empty (base role : String) : workerToken base role ≠ "" := by
  rw [Ne, ← String.toList_inj, toList_workerToken]
  simp

theorem workerToken_inj {other : String} :
    workerToken base role = workerToken base other ↔ role = other := by
  rw [← String.toList_inj, toList_workerToken, toList_workerToken, List.append_cancel_left_eq,
    List.cons.injEq, String.toList_inj]
  simp

/-- Each part of a worker has one token of its own. -/
theorem copies_workerToken {roles : List String} (distinct : roles.Nodup) (member : role ∈ roles) :
    copies (workerToken base role) (roles.map fun role => issued (workerToken base role) none) =
      1 := by
  have sameToken : ((fun entry : Entry => entry.token == (workerToken base role).toList) ∘
      fun role => issued (workerToken base role) none) = fun other => other == role := by
    funext other
    rw [Bool.eq_iff_iff, beq_iff_eq]
    exact beq_iff_eq.trans (String.toList_inj.trans workerToken_inj)
  rw [copies, List.countP_map, sameToken]
  exact List.count_eq_one_of_mem distinct member

theorem checkToken_workerToken (allowed : checkToken base = .ok ())
    (roleSolid : Text.Solid role.toList) (noBar : '|' ∉ role.toList) :
    checkToken (workerToken base role) = .ok () := by
  have parts := mem_of_checkToken allowed
  refine checkToken_ok (workerToken_ne_empty base role) ?_ ?_
  · rw [toList_workerToken]
    intro member
    rcases List.mem_append.mp member with inBase | inRole
    · exact (parts '|' inBase).1 rfl
    · rcases List.mem_cons.mp inRole with isDash | inRole
      · cases isDash
      · exact noBar inRole
  · rw [toList_workerToken]
    intro character member
    rcases List.mem_append.mp member with inBase | inRole
    · exact (parts character inBase).2
    · rcases List.mem_cons.mp inRole with rfl | inRole
      · rfl
      · exact roleSolid character inRole

/-- The form of a token is at fault, and no file. -/
def IsInvalid (error : TokenError) : Prop :=
  ∃ reason, error = .invalid reason

theorem not_isInvalid_io (path : String) (cause : IoError) : ¬IsInvalid (.io path cause) :=
  fun ⟨_, impossible⟩ => nomatch impossible

theorem issue_avoids {kind : Kind} {token : String} (allowed : checkToken token = .ok ())
    (expiry : Option Int) : Avoids IsInvalid (issue kind token expiry) := by
  refine avoids_bind (avoids_mk ?_) fun _ => avoids_bind ?_ fun _ => avoids_bind ?_ fun _ => ?_
  · intro error failed
    rw [allowed] at failed
    cases failed
  · exact avoids_bind avoids_get fun _ => avoids_adapt _ (not_isInvalid_io _)
  · exact avoids_bind avoids_get fun _ =>
      avoids_bind (avoids_adapt _ (not_isInvalid_io _)) fun _ => avoids_pure _
  · exact avoids_bind avoids_get fun _ => avoids_adapt _ (not_isInvalid_io _)

/-- A worker may have tokens made of any token that was issued. -/
theorem issueForWorker_avoids {kind : Kind} {expiry : Option Int}
    (ran : (issue kind base expiry).run before = (.ok (), after)) :
    Avoids IsInvalid (issueForWorker base) := by
  obtain ⟨_, allowed, _⟩ := given_ok ran
  have rolesFit : ∀ role ∈ workerRoles, Text.Solid role.toList ∧ '|' ∉ role.toList := by decide
  refine avoids_mapM fun role member => avoids_bind (issue_avoids ?_ none) fun _ => avoids_pure _
  obtain ⟨roleSolid, noBar⟩ := rolesFit role member
  exact checkToken_workerToken allowed roleSolid noBar

theorem checkToken_of_issueForWorker {tokens : List String}
    (ran : (issueForWorker base).run before = (.ok tokens, after)) :
    ∀ role ∈ workerRoles, checkToken (workerToken base role) = .ok () := by
  unfold issueForWorker at ran
  generalize workerRoles = roles at ran ⊢
  induction roles generalizing before tokens with
  | nil => simp
  | cons role roles inductionHypothesis =>
      obtain ⟨_, _, middle, rfl, first, rest⟩ := mapM_cons_ok ran
      obtain ⟨_, _, ranIssue, _⟩ := bind_ok first
      obtain ⟨_, allowed, _⟩ := given_ok ranIssue
      exact List.forall_mem_cons.mpr ⟨allowed, inductionHypothesis rest⟩

end Workers

end Tokens
end ClusterAgent
