import ClusterAgent.Proofs.Files.Storing
import ClusterAgent.Proofs.Text.Words
import ClusterAgent.Proofs.Tokens.Operations
namespace ClusterAgent
namespace Tokens

open Disk Running Text

/-! ## Lines of callback tokens -/

section Lines

variable {peer token line : List Char}

theorem callbackOn_line (peerNonempty : peer ≠ []) (peerSolid : Solid peer)
    (tokenNonempty : token ≠ []) (tokenSolid : Solid token) :
    callbackOn peer (peer ++ ' ' :: token) = some token := by
  have parts : words (peer ++ ' ' :: token) = [peer, token] := by
    rw [words_append peerNonempty peerSolid rfl, words_of_solid tokenNonempty tokenSolid]
  rw [callbackOn, parts]
  exact if_pos rfl

theorem callbackOn_withoutReturn (peer line : List Char) :
    callbackOn peer (withoutReturn line) = callbackOn peer line := by
  rw [callbackOn, callbackOn, words_withoutReturn]

theorem callbackOn_of_other (other : (words line).head? ≠ some peer) :
    callbackOn peer line = none := by
  rw [callbackOn]
  split
  · rename_i first _ _ parts
    rw [parts] at other
    exact if_neg fun same => other (congrArg some same)
  · rfl

theorem findSome?_replaceCallback (peerNonempty : peer ≠ []) (peerSolid : Solid peer)
    (tokenNonempty : token ≠ []) (tokenSolid : Solid token) (lines : List (List Char)) :
    (replaceCallback peer token lines).findSome? (callbackOn peer) = some token := by
  have noneKept :
      (lines.filter fun line => (words line).head? != some peer).findSome? (callbackOn peer) =
        none := by
    rw [List.findSome?_eq_none_iff]
    intro line member
    have other := (List.mem_filter.mp member).2
    exact callbackOn_of_other (by simpa using other)
  rw [replaceCallback, List.findSome?_append, noneKept, Option.none_or, List.findSome?_cons,
    callbackOn_line peerNonempty peerSolid tokenNonempty tokenSolid]

/-- A line that is stored has no blank but the one between its two words. -/
theorem blank_not_mem_replaceCallback {character : Char} {lines : List (List Char)}
    (peerSolid : Solid peer) (tokenSolid : Solid token) (blank : isBlank character = true)
    (notSpace : character ≠ ' ') (absent : ∀ line ∈ lines, character ∉ line) :
    ∀ line ∈ replaceCallback peer token lines, character ∉ line := by
  have notSolid {word : List Char} (solid : Solid word) : character ∉ word := by
    intro member
    rw [solid character member] at blank
    cases blank
  intro line member
  rcases List.mem_append.mp member with kept | added
  · exact absent line (List.mem_filter.mp kept).1
  · rw [List.mem_singleton.mp added, List.mem_append, List.mem_cons]
    rintro (inPeer | isSpace | inToken)
    · exact notSolid peerSolid inPeer
    · exact notSpace isSpace
    · exact notSolid tokenSolid inToken

end Lines

/-! ## Tokens that were kept for peers -/

section Storing

variable {peer token : String} {before after : Disk}

theorem solid_of_checkToken (allowed : checkToken token = .ok ()) : Solid token.toList :=
  fun character member => (mem_of_checkToken allowed character member).2

theorem ne_empty_of_checkToken (allowed : checkToken token = .ok ()) : token ≠ "" := by
  rintro rfl
  cases allowed

theorem checkToken_ok (nonempty : token ≠ "") (noBar : '|' ∉ token.toList)
    (solid : Solid token.toList) : checkToken token = .ok () := by
  have noneFound :
      (token.toList.any fun character => character == '|' || isBlank character) = false := by
    rw [List.any_eq_false]
    intro character member
    have notBar : character ≠ '|' := by
      rintro rfl
      exact noBar member
    simp [notBar, solid character member]
  rw [checkToken, if_neg (by simpa using nonempty), noneFound]
  rfl

theorem write_stores {place : Place} {text : List Char}
    (ran : (write place text).run before = (.ok (), after)) :
    after.Stores place (String.ofList text) :=
  writeSecret_stores (write_iff.mp ran)

theorem storeCallback_ok (ran : (storeCallback peer token).run before = (.ok (), after)) :
    checkToken token = .ok () ∧ peer ≠ "" ∧ Solid peer.toList ∧
      linesAt after Layout.callbackTokens.names =
        (replaceCallback peer.toList token.toList
          (linesAt before Layout.callbackTokens.names)).map withoutReturn := by
  have ending := storeCallback_ends peer token before
  rw [ran] at ending
  obtain ⟨_, allowed, ran⟩ := given_ok ran
  split at ran
  · cases ran
  rename_i acceptable
  simp only [Bool.or_eq_true, not_or] at acceptable
  obtain ⟨nonempty, noBlank⟩ := acceptable
  have solid : Solid peer.toList := by
    simpa [Solid] using noBlank
  have noFeed := blank_not_mem_replaceCallback solid (solid_of_checkToken allowed)
    (by decide) (by decide) (feed_not_mem_linesAt before Layout.callbackTokens.names)
  exact ⟨allowed, by simpa using nonempty, solid, linesAt_of_unlines noFeed ending.stored⟩

/-- The token that a node keeps for a peer. -/
def callbackIn (peer : String) (disk : Disk) : Option String :=
  ((linesAt disk Layout.callbackTokens.names).findSome? (callbackOn peer.toList)).map String.ofList

theorem callbackIn_congr
    (same : after.fileAt? Layout.callbackTokens.names =
      before.fileAt? Layout.callbackTokens.names) (peer : String) :
    callbackIn peer after = callbackIn peer before := by
  rw [callbackIn, callbackIn, linesAt_congr same]

theorem callbackIn_stored (ran : (storeCallback peer token).run before = (.ok (), after)) :
    callbackIn peer after = some token := by
  obtain ⟨allowed, peerNonempty, peerSolid, lines⟩ := storeCallback_ok ran
  have sameLines : callbackOn peer.toList ∘ withoutReturn = callbackOn peer.toList :=
    funext fun line => callbackOn_withoutReturn _ line
  have found := findSome?_replaceCallback (by simpa using peerNonempty) peerSolid
    (by simpa using ne_empty_of_checkToken allowed) (solid_of_checkToken allowed)
    (linesAt before Layout.callbackTokens.names)
  rw [callbackIn, lines, List.findSome?_map, sameLines, found, Option.map_some,
    String.ofList_toList]

theorem takeLock_error {error : TokenError} (ran : takeLock.run before = (.error error, after)) :
    ∃ path cause, error = .io path cause := by
  rcases bind_error ran with failed | ⟨_, _, _, ran⟩
  · cases failed
  · obtain ⟨cause, _, isIo⟩ := adapt_error ran
    exact ⟨_, cause, isIo.symm⟩

theorem readLines_error {place : Place} {error : TokenError}
    (ran : (readLines place).run before = (.error error, after)) :
    ∃ path cause, error = .io path cause := by
  rcases bind_error ran with failed | ⟨_, _, _, ran⟩
  · cases failed
  · rcases bind_error ran with failed | ⟨_, _, _, returned⟩
    · obtain ⟨cause, _, isIo⟩ := adapt_error failed
      exact ⟨_, cause, isIo.symm⟩
    · cases (Prod.mk.inj returned).1

theorem write_error {place : Place} {text : List Char} {error : TokenError}
    (ran : (write place text).run before = (.error error, after)) :
    ∃ path cause, error = .io path cause := by
  rcases bind_error ran with failed | ⟨_, _, _, ran⟩
  · cases failed
  · obtain ⟨cause, _, isIo⟩ := adapt_error ran
    exact ⟨_, cause, isIo.symm⟩

/-- What cannot be stored for its form changes nothing: the form is looked at before the lock is
taken. -/
theorem storeCallback_invalid {reason : String}
    (ran : (storeCallback peer token).run before = (.error (.invalid reason), after)) :
    after = before := by
  have noIo {error : TokenError} (isIo : ∃ path cause, error = .io path cause) :
      error ≠ .invalid reason := by
    obtain ⟨path, cause, rfl⟩ := isIo
    exact fun same => nomatch same
  rcases given_cases ran with ⟨_, _, same⟩ | ⟨_, _, ran⟩
  · exact same
  split at ran
  · exact (Prod.mk.inj ran).2.symm
  rcases bind_error ran with failed | ⟨_, _, _, ran⟩
  · exact absurd rfl (noIo (takeLock_error failed))
  rcases bind_error ran with failed | ⟨_, _, _, ran⟩
  · exact absurd rfl (noIo (readLines_error failed))
  · exact absurd rfl (noIo (write_error ran))

theorem callbackFor_ok {found : Option String}
    (ran : (callbackFor peer).run before = (.ok found, after)) :
    found = callbackIn peer before := by
  obtain ⟨_, locked, ranLock, ran⟩ := bind_ok ran
  obtain ⟨lines, _, ranRead, returned⟩ := bind_ok ran
  obtain ⟨rfl, read⟩ := readLines_locked ⟨rfl, _, rfl⟩ (by decide) ranLock ranRead
  obtain ⟨result, _⟩ := Prod.mk.inj returned
  rw [callbackIn, ← read]
  exact (Except.ok.inj result).symm

end Storing

/-! ## The token of the node itself -/

/-- The token with which peers call the node stands in its file, perhaps with blanks around
it. -/
def OwnToken (disk : Disk) (token : String) : Prop :=
  ∃ text, disk.textOf Layout.callbackToken = .ok text ∧ trim text.toList = token.toList

/-- The token that a node gives to its peers is the one that it keeps. -/
theorem ownCallback_ok {fresh token : String} {before after : Disk} (solid : Solid token.toList)
    (ran : (ownCallback fresh).run before = (.ok token, after)) :
    OwnToken after token ∧ (token = fresh ∨ token ≠ "") := by
  obtain ⟨_, locked, _, ran⟩ := bind_ok ran
  obtain ⟨_, _, fetched, ran⟩ := bind_ok ran
  cases fetched
  obtain ⟨content, _, read, ran⟩ := bind_ok ran
  obtain ⟨same, allowed, given⟩ := readOptional_ok (adapt_ok read)
  rw [same] at ran
  dsimp only at ran
  split at ran
  · rename_i existing
    obtain ⟨result, rfl⟩ := Prod.mk.inj ran
    obtain rfl : String.ofList (trim (content.getD "").toList) = token := Except.ok.inj result
    rcases given with ⟨text, found, rfl⟩ | ⟨_, rfl⟩
    · exact ⟨⟨text, found, String.toList_ofList.symm⟩, Or.inr (by simpa using existing)⟩
    · exact absurd rfl existing
  · obtain ⟨_, written, wrote, returned⟩ := bind_ok ran
    obtain ⟨result, rfl⟩ := Prod.mk.inj returned
    obtain rfl : fresh = token := Except.ok.inj result
    have writing : ChangesOnly
        [Layout.callbackToken.names, Layout.callbackToken.temporary] locked written :=
      (write_within _ (by simp) (by simp)).reaches wrote
    have stored := write_stores wrote
    rw [String.ofList_toList] at stored
    rw [← writing.refuses] at allowed
    exact ⟨⟨fresh, stored.textOf rfl (by decide) allowed, trim_eq_self solid⟩, Or.inl rfl⟩

end Tokens
end ClusterAgent
