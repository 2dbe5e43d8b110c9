import ClusterAgent.Agent.Commands
import ClusterAgent.Proofs.Client.Working
import ClusterAgent.Proofs.Text.Number
import ClusterAgent.Proofs.Tokens.Lookups
namespace ClusterAgent

open Disk Running

namespace Tokens

/-! ## Tokens that expire -/

/-- An entry that was issued with an expiry admits its token until then. -/
theorem admits_issued_iff {token : String} {expiry now : Int} (nonempty : token ≠ "")
    (isInt64 : Text.IsInt64 expiry) :
    Admits token now (issued token (some expiry)) ↔ now < expiry := by
  have read : Text.readInt64 (Text.trim (toString expiry).toList) = .ok expiry := by
    rw [Text.trim_eq_self (isBlank_toString expiry), Text.readInt64_toString isInt64]
  constructor
  · intro admits
    obtain ⟨time, given, later⟩ := admits.inTime _ rfl
    rw [read] at given
    cases given
    exact later
  · intro later
    refine ⟨nonempty, rfl, fun text isText => ⟨expiry, ?_, later⟩⟩
    cases isText
    exact read

section Issued

variable {kind : Kind} {token : String} {expiry : Int} {before after : Disk}

/-- A token that has no other entry is accepted until it expires and refused from then on. -/
theorem consume_issued (isInt64 : Text.IsInt64 expiry)
    (ran : (issue kind token (some expiry)).run before = (.ok (), after))
    (noOther : ∀ entry ∈ entriesIn kind before, entry.token ≠ token.toList) (now : Int) :
    ∃ presented, (consume kind token now).run after = (.ok (decide (now < expiry)), presented) := by
  obtain ⟨_, allowed, _⟩ := given_ok ran
  have nonempty := ne_empty_of_checkToken allowed
  have entries := issue_ok ran
  have admitted : (∃ entry ∈ entriesIn kind after, Admits token now entry) ↔ now < expiry := by
    rw [entries, ← admits_issued_iff nonempty isInt64]
    constructor
    · rintro ⟨entry, member, admits⟩
      rcases List.mem_append.mp member with other | isIssued
      · exact absurd admits.token (noOther entry other)
      · rwa [List.mem_singleton.mp isIssued] at admits
    · exact fun admits => ⟨_, List.mem_append_right _ List.mem_cons_self, admits⟩
  obtain ⟨accepted, presented, ranConsume, _⟩ :=
    consume_usable token now after (usable_of_issue ran)
  refine ⟨presented, ranConsume.trans ?_⟩
  rcases consume_ok ranConsume with ⟨rfl, noEntry, _⟩ | ⟨rfl, ⟨_, entry, _, shape, _, admits, _⟩, _⟩
  · have late : ¬now < expiry := fun inTime => by
      obtain ⟨entry, member, admits⟩ := admitted.mpr inTime
      exact noEntry entry member admits
    rw [decide_eq_false late]
  · have inTime : now < expiry := admitted.mp ⟨entry, by rw [shape]; simp, admits⟩
    rw [decide_eq_true inTime]

theorem issue_works {files : List (List String)} {expiry : Option Int} (layered : Layered files)
    (lock : Layout.tokensLock.names ∈ files) (writable : Writable files kind.place)
    (allowed : checkToken token = .ok ()) : Works (Tidy files) (issue kind token expiry) := by
  unfold issue
  rw [allowed]
  exact works_bind (works_pure ()) fun _ => works_bind (takeLock_works layered lock) fun _ =>
    works_bind (readLines_works layered writable) fun _ => write_works layered writable _

/-- A token that was not issued leaves its list as it was. -/
theorem fileAt?_of_issue_failed {expiry : Option Int} {error : TokenError}
    (ran : (issue kind token expiry).run before = (.error error, after)) :
    after.fileAt? kind.place.names = before.fileAt? kind.place.names := by
  have ending := issue_ends kind token expiry before
  rw [ran] at ending
  exact ending.error_changes.fileAt? (by cases kind <;> decide)

end Issued

end Tokens

namespace Agent

open Tokens

/-! ## Tokens that are given -/

/-- The token can stand on a line, and is not shorter than one that is made when its size is
taken for its length. -/
structure Acceptable (token : String) (size : Nat) : Prop where
  long : Tokens.length ≤ size
  noBar : '|' ∉ token.toList
  solid : Text.Solid token.toList

theorem acceptable_iff {token : String} {size : Nat} :
    Acceptable token size ↔
      Tokens.length ≤ size ∧ '|' ∉ token.toList ∧ Text.Solid token.toList :=
  ⟨fun acceptable => ⟨acceptable.long, acceptable.noBar, acceptable.solid⟩,
    fun ⟨long, noBar, solid⟩ => ⟨long, noBar, solid⟩⟩

instance (token : String) (size : Nat) : Decidable (Acceptable token size) :=
  decidable_of_iff _ acceptable_iff.symm

/-- What is long enough in characters is long enough in octets. -/
theorem Acceptable.of_characters {token : String} (acceptable : Acceptable token token.length) :
    Acceptable token token.utf8ByteSize := by
  have octets := Text.length_le_utf8ByteSize token.toList
  rw [String.ofList_toList, String.length_toList] at octets
  exact ⟨Nat.le_trans acceptable.long octets, acceptable.noBar, acceptable.solid⟩

/-- The command failed with a file. -/
def CommandError.OfFiles (error : CommandError) : Prop :=
  ∃ path cause, error = .token (.io path cause)

section Inviting

variable {bind : SocketAddress} {token fresh : String} {lifetime : Nat} {now : Int}
  {before after : Disk}

theorem acceptGiven_iff {taken : String} :
    acceptGiven (some token) fresh = .ok taken ↔
      Tokens.length ≤ token.utf8ByteSize ∧ taken = token := by
  rw [acceptGiven]
  split
  · rename_i short
    exact ⟨nofun, fun accepted => absurd short (Nat.not_lt.mpr accepted.1)⟩
  · rename_i notShort
    constructor
    · rintro ⟨⟩
      exact ⟨Nat.le_of_not_lt notShort, rfl⟩
    · rintro ⟨_, rfl⟩
      rfl

/-- The tokens that are accepted are those that are long enough and can stand on a line. -/
theorem acceptable_iff_checks :
    Acceptable token token.utf8ByteSize ↔
      Tokens.length ≤ token.utf8ByteSize ∧ checkToken token = .ok () := by
  constructor
  · rintro ⟨long, noBar, solid⟩
    have nonempty : token ≠ "" := by
      rintro rfl
      cases long
    exact ⟨long, checkToken_ok nonempty noBar solid⟩
  · rintro ⟨long, allowed⟩
    exact ⟨long, fun member => (mem_of_checkToken allowed '|' member).1 rfl,
      solid_of_checkToken allowed⟩

theorem checkToken_refused (refused : checkToken token ≠ .ok ()) :
    ∃ reason, checkToken token = .error (.invalid reason) := by
  rw [checkToken] at refused ⊢
  split
  · exact ⟨_, rfl⟩
  · split
    · exact ⟨_, rfl⟩
    · rename_i some fits
      rw [if_neg some, if_neg fits] at refused
      exact absurd rfl refused

/-- A token that is not accepted is refused before anything is done. -/
theorem addNode_refuses (unacceptable : ¬Acceptable token token.utf8ByteSize) :
    ∃ error, (addNode bind (some token) fresh lifetime now).run before = (.error error, before) ∧
      ¬error.OfFiles := by
  by_cases long : Tokens.length ≤ token.utf8ByteSize
  · obtain ⟨reason, refused⟩ :=
      checkToken_refused fun allowed => unacceptable (acceptable_iff_checks.mpr ⟨long, allowed⟩)
    refine ⟨.token (.invalid reason), ?_, nofun⟩
    have issued : (issue .cluster token (some (now + lifetime))).run before =
        (.error (.invalid reason), before) := by
      rw [issue, refused]
      rfl
    rw [addNode, acceptGiven_iff.mpr ⟨long, rfl⟩, run_given rfl, run_bind, run_adapt, issued]
    rfl
  · refine ⟨.tokenTooShort, ?_, nofun⟩
    rw [addNode, acceptGiven, if_pos (Nat.lt_of_not_le long)]
    rfl

/-- A command that fails leaves the list of tokens as it was, and with a token that is accepted it
fails only with a file. -/
theorem addNode_failed {error : CommandError}
    (ran : (addNode bind (some token) fresh lifetime now).run before = (.error error, after)) :
    after.fileAt? Layout.clusterTokens.names = before.fileAt? Layout.clusterTokens.names ∧
      (Acceptable token token.utf8ByteSize → error.OfFiles) := by
  rcases given_cases ran with ⟨_, refused, rfl⟩ | ⟨_, accepted, ranAccepted⟩
  · refine ⟨rfl, fun acceptable => ?_⟩
    rw [acceptGiven_iff.mpr ⟨acceptable.long, rfl⟩] at refused
    cases refused
  obtain ⟨_, rfl⟩ := acceptGiven_iff.mp accepted
  rcases bind_error ranAccepted with failed | ⟨_, _, _, told⟩
  · obtain ⟨cause, issuing, rfl⟩ := adapt_error failed
    refine ⟨fileAt?_of_issue_failed issuing, fun acceptable => ?_⟩
    have notInvalid := issue_avoids (acceptable_iff_checks.mp acceptable).2 _ before cause after
      issuing
    cases cause with
    | io path cause => exact ⟨path, cause, rfl⟩
    | invalid reason => exact absurd ⟨reason, rfl⟩ notInvalid
  · cases told

theorem addNode_ok {told : String}
    (ran : (addNode bind (some token) fresh lifetime now).run before = (.ok told, after)) :
    told = invitation bind token ∧ Tokens.length ≤ token.utf8ByteSize ∧
      (issue .cluster token (some (now + lifetime))).run before = (.ok (), after) := by
  obtain ⟨_, accepted, ranAccepted⟩ := given_ok ran
  obtain ⟨long, rfl⟩ := acceptGiven_iff.mp accepted
  obtain ⟨_, _, issuing, returned⟩ := bind_ok ranAccepted
  cases returned
  exact ⟨rfl, long, adapt_ok issuing⟩

/-- Where files can be read and written every token that is accepted is issued. -/
theorem addNode_works {files : List (List String)} (layered : Layered files)
    (lock : Layout.tokensLock.names ∈ files) (writable : Writable files Kind.cluster.place)
    (acceptable : Acceptable token token.utf8ByteSize) :
    Works (Tidy files) (addNode bind (some token) fresh lifetime now) := by
  obtain ⟨long, allowed⟩ := acceptable_iff_checks.mp acceptable
  intro disk tidy
  rw [addNode, run_given (acceptGiven_iff.mpr ⟨long, rfl⟩)]
  exact works_bind (works_adapt (issue_works layered lock writable allowed)) (fun _ => works_pure _)
    disk tidy

end Inviting

/-- What a command that succeeded did. The token has one entry more, all entries that were there
are kept, and if none of them is one of the token, the token can be presented until it expires. -/
structure Invited (bind : SocketAddress) (token : String) (expiry : Int) (told : String)
    (before after : Disk) : Prop where
  told : told = invitation bind token
  added : entriesIn .cluster after = entriesIn .cluster before ++ [issued token (some expiry)]
  others : Untouched .cluster before after
  usable : Text.IsInt64 expiry →
    (∀ entry ∈ entriesIn .cluster before, entry.token ≠ token.toList) → ∀ time,
      ∃ presented,
        (consume .cluster token time).run after = (.ok (decide (time < expiry)), presented)

/-- A token is accepted exactly when it has as many octets as a made token has characters and
neither bars nor blanks; so all that are long enough in characters are accepted, and others with
them. A token that is refused changes nothing, and one that is accepted can be presented until it
expires. -/
theorem addNode_accepts (bind : SocketAddress) (token fresh : String) (lifetime : Nat) (now : Int)
    (before : Disk) :
    (Acceptable token token.length → Acceptable token token.utf8ByteSize) ∧
    (¬Acceptable token token.utf8ByteSize →
      ∃ error, (addNode bind (some token) fresh lifetime now).run before = (.error error, before) ∧
        ¬error.OfFiles) ∧
    (Acceptable token token.utf8ByteSize → ∀ files, Layered files →
      Layout.tokensLock.names ∈ files → Writable files Layout.clusterTokens → Tidy files before →
        ∃ told after,
          (addNode bind (some token) fresh lifetime now).run before = (.ok told, after)) ∧
    (∀ error after,
      (addNode bind (some token) fresh lifetime now).run before = (.error error, after) →
        after.fileAt? Layout.clusterTokens.names = before.fileAt? Layout.clusterTokens.names ∧
          (Acceptable token token.utf8ByteSize → error.OfFiles)) ∧
    ∀ told after, (addNode bind (some token) fresh lifetime now).run before = (.ok told, after) →
      Acceptable token token.utf8ByteSize ∧
        Invited bind token (now + lifetime) told before after := by
  refine ⟨Acceptable.of_characters, addNode_refuses, ?_, fun _ _ => addNode_failed, ?_⟩
  · intro acceptable files layered lock writable tidy
    obtain ⟨told, after, ran, _⟩ := addNode_works layered lock writable acceptable before tidy
    exact ⟨told, after, ran⟩
  · intro told after ran
    obtain ⟨isTold, long, issuing⟩ := addNode_ok ran
    obtain ⟨_, allowed, _⟩ := given_ok issuing
    exact ⟨acceptable_iff_checks.mpr ⟨long, allowed⟩, isTold, issue_ok issuing,
      untouched_of_changes (issue_within.reaches issuing),
      fun isInt64 noOther => consume_issued isInt64 issuing noOther⟩

/-! ## A list with other entries -/

/-- The list has a token that does not expire and one that has expired. -/
def listedTokens : Disk :=
  { Disk.empty "/data" with
    entries :=
      [(["credentials"], .directory),
        (["credentials", "cluster-tokens.txt"], .file "seed\nold|5".toUTF8 false)] }

def everywhere : SocketAddress :=
  ⟨.v4 0, 25000, 0⟩

def givenToken : String := "zyxwvutsrqponmlkjihgfedcba543210"

def invitedNode : Disk :=
  ((addNode everywhere (some givenToken) "" 600 1000).run listedTokens).2

theorem givenToken_invited :
    Acceptable givenToken givenToken.length ∧
      (addNode everywhere (some givenToken) "" 600 1000).run listedTokens =
        (.ok (invitation everywhere givenToken), invitedNode) ∧
      entriesIn .cluster invitedNode =
        [⟨"seed".toList, none⟩, ⟨"old".toList, some "5".toList⟩,
          ⟨givenToken.toList, some "1600".toList⟩] ∧
      (∃ presented, (consume .cluster givenToken 1599).run invitedNode = (.ok true, presented)) ∧
      ∃ presented, (consume .cluster givenToken 1600).run invitedNode = (.ok false, presented) := by
  have ran : (addNode everywhere (some givenToken) "" 600 1000).run listedTokens =
      (.ok (invitation everywhere givenToken), invitedNode) :=
    run_of_toOption (by decide +kernel)
  have entries : entriesIn .cluster listedTokens =
      [⟨"seed".toList, none⟩, ⟨"old".toList, some "5".toList⟩] := by
    decide +kernel
  have noOther : ∀ entry ∈ entriesIn .cluster listedTokens, entry.token ≠ givenToken.toList := by
    rw [entries]
    decide +kernel
  obtain ⟨_, invited⟩ :=
    (addNode_accepts everywhere givenToken "" 600 1000 listedTokens).2.2.2.2 _ _ ran
  have usable := invited.usable ⟨by decide, by decide⟩ noOther
  refine ⟨by decide +kernel, ran, ?_, usable 1599, usable 1600⟩
  rw [invited.added, entries]
  decide +kernel

/-- Sixteen characters of two octets each are taken for a token of the length of one that is
made. -/
theorem addNode_accepts_sixteen :
    ¬∀ (bind : SocketAddress) (token fresh told : String) (lifetime : Nat) (now : Int)
      (before after : Disk),
      (addNode bind (some token) fresh lifetime now).run before = (.ok told, after) →
        Acceptable token token.length := by
  intro documented
  have ran : (addNode everywhere (some "éééééééééééééééé") "" 600 1000).run listedTokens =
      (.ok (invitation everywhere "éééééééééééééééé"), _) :=
    run_of_toOption (by decide +kernel)
  exact absurd (documented _ _ _ _ _ _ _ _ ran).long (by decide +kernel)

end Agent
end ClusterAgent
