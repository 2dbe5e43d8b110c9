import ClusterAgent.Proofs.Tokens.Operations
namespace ClusterAgent
namespace Tokens

open Disk Running

/-! ## Uses of the lists of tokens -/

/-- What a caller asks of the lists of single-use tokens. Between the two tokens of a worker
others may take the lock; such a run has the two as uses of their own. -/
inductive Use
  | issue (kind : Kind) (token : String) (expiry : Option Int)
  | issueForWorker (base : String)
  | consume (kind : Kind) (token : String) (now : Int)
  deriving DecidableEq, Repr

namespace Use

/-- Only a use that presents a token has an answer: whether it was accepted. -/
def perform : Use → Step TokenError (Option Bool)
  | .issue kind token expiry => do
      Tokens.issue kind token expiry
      return none
  | .issueForWorker base => do
      let _ ← Tokens.issueForWorker base
      return none
  | .consume kind token now => do
      let accepted ← Tokens.consume kind token now
      return some accepted

/-- The entries that a use adds to the list of a kind. -/
def adds (kind : Kind) : Use → List Entry
  | .issue other token expiry => if other = kind then [issued token expiry] else []
  | .issueForWorker base =>
      if kind = .certificateRequest then
        workerRoles.map fun role => issued (workerToken base role) none
      else []
  | .consume _ _ _ => []

/-- Whether a use presents `token` for the list of a kind. -/
def presents (kind : Kind) (token : String) : Use → Bool
  | .consume other presented _ => other == kind && presented == token
  | _ => false

end Use

/-- The uses one after another, as the lock lets them through. -/
def performAll (uses : List Use) : Step TokenError (List (Option Bool)) :=
  uses.mapM Use.perform

/-! ## What a use does -/

/-- No file changes but those that belong to the list of a kind. -/
structure Untouched (kind : Kind) (before after : Disk) : Prop where
  otherLists : ∀ other, other ≠ kind →
    after.fileAt? other.place.names = before.fileAt? other.place.names
  callbackTokens : after.fileAt? Layout.callbackTokens.names =
    before.fileAt? Layout.callbackTokens.names
  callbackToken : after.fileAt? Layout.callbackToken.names =
    before.fileAt? Layout.callbackToken.names
  elsewhere : ∀ names, names ∉ footprint kind → after.fileAt? names = before.fileAt? names

theorem untouched_of_changes {kind : Kind} {before after : Disk}
    (changes : ChangesOnly (footprint kind) before after) : Untouched kind before after := by
  refine ⟨?_, changes.fileAt? ?_, changes.fileAt? ?_, fun names => changes.fileAt?⟩
  · intro other different
    refine changes.fileAt? ?_
    cases kind <;> cases other <;> first | exact absurd rfl different | decide
  · cases kind <;> decide
  · cases kind <;> decide

/-- What a use that succeeds does to the disk, with its answer. A token is accepted only when
an entry admits it, and the first such entry is gone then; a token that is refused leaves its
list as it is, octet for octet. -/
inductive Effect : Use → Option Bool → Disk → Disk → Prop
  | issued {kind : Kind} {token : String} {expiry : Option Int} {before after : Disk}
      (added : entriesIn kind after = entriesIn kind before ++ [issued token expiry])
      (others : Untouched kind before after) :
      Effect (.issue kind token expiry) none before after
  | issuedForWorker {base : String} {before after : Disk}
      (added : entriesIn .certificateRequest after =
        entriesIn .certificateRequest before ++
          workerRoles.map fun role => issued (workerToken base role) none)
      (others : Untouched .certificateRequest before after) :
      Effect (.issueForWorker base) none before after
  | accepted {kind : Kind} {token : String} {now : Int} {before after : Disk}
      (spent : SpentFrom token now (entriesIn kind before) (entriesIn kind after))
      (others : Untouched kind before after) :
      Effect (.consume kind token now) (some true) before after
  | refused {kind : Kind} {token : String} {now : Int} {before after : Disk}
      (noEntry : ∀ entry ∈ entriesIn kind before, ¬Admits token now entry)
      (same : after.fileAt? kind.place.names = before.fileAt? kind.place.names)
      (others : Untouched kind before after) :
      Effect (.consume kind token now) (some false) before after

theorem perform_ok {use : Use} {answer : Option Bool} {before after : Disk}
    (ran : use.perform.run before = (.ok answer, after)) : Effect use answer before after := by
  cases use with
  | issue kind token expiry =>
      obtain ⟨_, _, ranIssue, returned⟩ := bind_ok ran
      cases returned
      exact .issued (issue_ok ranIssue) (untouched_of_changes (issue_within.reaches ranIssue))
  | issueForWorker base =>
      obtain ⟨_, _, ranIssue, returned⟩ := bind_ok ran
      cases returned
      exact .issuedForWorker (issueForWorker_ok ranIssue)
        (untouched_of_changes ((issueForWorker_within base).reaches ranIssue))
  | consume kind token now =>
      obtain ⟨accepted, _, ranConsume, returned⟩ := bind_ok ran
      cases returned
      have others := untouched_of_changes (consume_within.reaches ranConsume)
      rcases consume_ok ranConsume with ⟨rfl, noEntry, changes⟩ | ⟨rfl, spent, _⟩
      · refine .refused noEntry (changes.fileAt? ?_) others
        simpa using place_ne_lock kind
      · exact .accepted spent others

/-- What a run of uses does, use by use. -/
inductive Chronicle : List Use → List (Option Bool) → Disk → Disk → Prop
  | nil (disk : Disk) : Chronicle [] [] disk disk
  | cons {use : Use} {uses : List Use} {answer : Option Bool} {answers : List (Option Bool)}
      {before middle after : Disk} (effect : Effect use answer before middle)
      (rest : Chronicle uses answers middle after) :
      Chronicle (use :: uses) (answer :: answers) before after

theorem chronicle_of_run {uses : List Use} {answers : List (Option Bool)} {before after : Disk}
    (ran : (performAll uses).run before = (.ok answers, after)) :
    Chronicle uses answers before after := by
  induction uses generalizing answers before with
  | nil =>
      obtain ⟨rfl, rfl⟩ := mapM_nil_ok ran
      exact .nil _
  | cons use uses inductionHypothesis =>
      obtain ⟨answer, later, middle, rfl, first, rest⟩ := mapM_cons_ok ran
      exact .cons (perform_ok first) (inductionHypothesis rest)

/-! ## Counting entries -/

/-- The number of entries of `token` in a list. -/
def copies (token : String) (entries : List Entry) : Nat :=
  entries.countP fun entry => entry.token == token.toList

/-- How often `token` was accepted for the list of a kind. -/
def timesAccepted (kind : Kind) (token : String) (uses : List Use) (answers : List (Option Bool)) :
    Nat :=
  (uses.zip answers).countP fun (use, answer) => use.presents kind token && answer == some true

/-- How many entries of `token` the uses add to the list of a kind. -/
def timesIssued (kind : Kind) (token : String) (uses : List Use) : Nat :=
  copies token (uses.flatMap (Use.adds kind))

theorem copies_append (token : String) (front back : List Entry) :
    copies token (front ++ back) = copies token front + copies token back :=
  List.countP_append

theorem copies_of_spentFrom {presented : String} {now : Int} {before after : List Entry}
    (spent : SpentFrom presented now before after) (token : String) :
    copies token before = copies token after + if presented = token then 1 else 0 := by
  obtain ⟨front, entry, back, rfl, rfl, admits, _⟩ := spent
  have single : copies token (entry :: back) =
      copies token back + if presented = token then 1 else 0 := by
    rw [copies, List.countP_cons, admits.token]
    simp only [beq_iff_eq, String.toList_inj]
    rfl
  rw [copies_append, copies_append, single, Nat.add_assoc]

theorem Untouched.entriesIn {kind other : Kind} {before after : Disk}
    (untouched : Untouched kind before after) (different : kind ≠ other) :
    entriesIn other after = entriesIn other before := by
  rw [Tokens.entriesIn, Tokens.entriesIn,
    linesAt_congr (untouched.otherLists other (Ne.symm different))]

/-- A use takes from a list the entry for which it accepts a token, and adds what it issues. -/
theorem copies_of_effect {use : Use} {answer : Option Bool} {before after : Disk}
    (effect : Effect use answer before after) (kind : Kind) (token : String) :
    (if use.presents kind token && answer == some true then 1 else 0) +
        copies token (entriesIn kind after) =
      copies token (entriesIn kind before) + copies token (use.adds kind) := by
  cases effect with
  | @issued listed issuedToken expiry _ _ added others =>
      by_cases same : listed = kind
      · subst same
        simp [added, copies_append, Use.presents, Use.adds]
      · rw [others.entriesIn same]
        simp [Use.presents, Use.adds, same, copies]
  | @issuedForWorker base _ _ added others =>
      by_cases same : Kind.certificateRequest = kind
      · subst same
        simp [added, copies_append, Use.presents, Use.adds]
      · rw [others.entriesIn same]
        simp [Use.presents, Use.adds, Ne.symm same, copies]
  | @accepted listed presented now _ _ spent others =>
      by_cases same : listed = kind
      · subst same
        rw [copies_of_spentFrom spent token]
        simp [Use.presents, Use.adds, copies, Nat.add_comm]
      · rw [others.entriesIn same]
        simp [Use.presents, Use.adds, same, copies]
  | @refused listed presented now _ _ noEntry unchanged others =>
      have same : entriesIn kind after = entriesIn kind before := by
        by_cases same : listed = kind
        · subst same
          rw [Tokens.entriesIn, Tokens.entriesIn, linesAt_congr unchanged]
        · exact others.entriesIn same
      simp [same, Use.adds, copies]

/-- What was accepted in a run and what is left are together what was there and what was
issued. -/
theorem copies_of_chronicle {uses : List Use} {answers : List (Option Bool)} {before after : Disk}
    (chronicle : Chronicle uses answers before after) (kind : Kind) (token : String) :
    timesAccepted kind token uses answers + copies token (entriesIn kind after) =
      copies token (entriesIn kind before) + timesIssued kind token uses := by
  -- Each use moves an entry from what is left to what was accepted, or adds one to both sides.
  induction chronicle with
  | nil disk => simp [timesAccepted, timesIssued, copies]
  | @cons use uses answer answers _ _ _ effect rest inductionHypothesis =>
      have step := copies_of_effect effect kind token
      have accepted : timesAccepted kind token (use :: uses) (answer :: answers) =
          timesAccepted kind token uses answers +
            if use.presents kind token && answer == some true then 1 else 0 :=
        List.countP_cons
      have added : timesIssued kind token (use :: uses) =
          copies token (use.adds kind) + timesIssued kind token uses := by
        rw [timesIssued, List.flatMap_cons, copies_append, timesIssued]
      omega

/-- The lists of tokens are lists of single-use entries over every run in which all uses
succeed: each use does to them what is said of it, and no token is accepted more often than it
was there at the start or issued since. -/
theorem entries_are_single_use {uses : List Use} {answers : List (Option Bool)}
    {before after : Disk} (ran : (performAll uses).run before = (.ok answers, after)) :
    Chronicle uses answers before after ∧
      ∀ kind token,
        timesAccepted kind token uses answers ≤
          copies token (entriesIn kind before) + timesIssued kind token uses := by
  have chronicle := chronicle_of_run ran
  refine ⟨chronicle, fun kind token => ?_⟩
  rw [← copies_of_chronicle chronicle kind token]
  exact Nat.le_add_right _ _

/-! ## A run on lists with odd lines -/

/-- Of the lines for one token, the first has expired and the second has an expiry that is no
number; the last line is not ended. -/
def storedTokens : Disk :=
  { Disk.empty "/data" with
    entries :=
      [(["credentials"], .directory),
        (["credentials", "cluster-tokens.txt"],
          .file "abc|5\r\nabc|soon\n\n  abc|100 \nabc".toUTF8 false)] }

/-- Two uses of a token that has two valid entries, one that finds none, and a worker. -/
def sampleUses : List Use :=
  [.consume .cluster "abc" 50, .issue .cluster "new" (some (-3)), .consume .cluster "abc" 50,
    .consume .cluster "abc" 50, .issueForWorker "w",
    .consume .certificateRequest "w-proxy" 50, .consume .cluster "new" (-4)]

def sampleAnswers : List (Option Bool) :=
  [some true, none, some true, some false, none, some true, some true]

theorem sampleUses_single_use :
    (performAll sampleUses).run storedTokens =
        (.ok sampleAnswers, ((performAll sampleUses).run storedTokens).2) ∧
      Chronicle sampleUses sampleAnswers storedTokens
        ((performAll sampleUses).run storedTokens).2 ∧
      ∀ kind token,
        timesAccepted kind token sampleUses sampleAnswers ≤
          copies token (entriesIn kind storedTokens) + timesIssued kind token sampleUses := by
  have ran : (performAll sampleUses).run storedTokens =
      (.ok sampleAnswers, ((performAll sampleUses).run storedTokens).2) :=
    run_of_toOption (by decide +kernel)
  exact ⟨ran, entries_are_single_use ran⟩

end Tokens
end ClusterAgent
