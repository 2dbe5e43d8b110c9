import ClusterAgent.Proofs.Tokens.CallbackRuns
namespace ClusterAgent
namespace Tokens

open Disk Running Text

/-! ## Generated tokens -/

/-- A token that random octets give, when there are enough of them. -/
def IsGenerated (token : String) : Prop :=
  ∃ octets, ofRandom octets = token ∧ token.toList.length = length

section Generated

variable {token : String}

theorem mem_alphabet_of_ofRandom {octets : List UInt8} {character : Char}
    (member : character ∈ (ofRandom octets).toList) : character ∈ alphabet := by
  rw [ofRandom, String.toList_ofList] at member
  obtain ⟨octet, _, picked⟩ := List.mem_filterMap.mp (List.mem_of_mem_take member)
  split at picked
  · exact List.mem_of_getElem? picked
  · cases picked

theorem IsGenerated.solid (generated : IsGenerated token) : Solid token.toList := by
  have plain : alphabet.all (fun character => !isBlank character) = true := by decide
  obtain ⟨octets, rfl, _⟩ := generated
  intro character member
  simpa using List.all_eq_true.mp plain character (mem_alphabet_of_ofRandom member)

theorem IsGenerated.nonempty (generated : IsGenerated token) : token.toList ≠ [] := by
  obtain ⟨octets, _, long⟩ := generated
  intro empty
  rw [empty] at long
  cases long

end Generated

/-! ## The token in its file -/

/-- The text without the blanks around it, unless nothing is left. -/
def tokenOf? (text : String) : Option String :=
  if trim text.toList = [] then none else some (String.ofList (trim text.toList))

/-- What stands in the file of the own callback token. A file that is blank or no text has no
token. -/
def ownToken? (disk : Disk) : Option String := do
  let (content, _) ← disk.fileAt? Layout.callbackToken.names
  let text ← (Utf8.decode content).toOption
  tokenOf? text

section Keeping

variable {token fresh : String} {before after : Disk}

/-- A token has no blanks around it, and some other character. -/
theorem trimmed_of_tokenOf? {text : String} (isToken : tokenOf? text = some token) :
    token ≠ "" ∧ Trimmed token.toList := by
  rw [tokenOf?] at isToken
  split at isToken
  · cases isToken
  · rename_i nonempty
    cases isToken
    rw [String.toList_ofList]
    exact ⟨by simpa using nonempty, trimmed_trim _⟩

theorem tokenOf?_of_generated (generated : IsGenerated token) : tokenOf? token = some token := by
  rw [tokenOf?, trim_eq_self generated.solid, if_neg generated.nonempty, String.ofList_toList]

theorem trimmed_of_ownToken? (kept : ownToken? before = some token) :
    token ≠ "" ∧ Trimmed token.toList := by
  obtain ⟨_, _, kept⟩ := Option.bind_eq_some_iff.mp kept
  obtain ⟨_, _, isToken⟩ := Option.bind_eq_some_iff.mp kept
  exact trimmed_of_tokenOf? isToken

theorem ownToken?_congr (same : after.fileAt? Layout.callbackToken.names =
    before.fileAt? Layout.callbackToken.names) : ownToken? after = ownToken? before := by
  rw [ownToken?, ownToken?, same]

theorem ownToken?_of_file {octets : ByteArray} {isPrivate : Bool} {content : String}
    (file : before.fileAt? Layout.callbackToken.names = some (octets, isPrivate))
    (decoded : Utf8.decode octets = .ok content) (notBlank : trim content.toList ≠ []) :
    ownToken? before = some (String.ofList (trim content.toList)) := by
  have isText : (Utf8.decode octets).toOption = some content := by
    rw [decoded]
    rfl
  rw [ownToken?, file]
  simp only [Option.bind_eq_bind, Option.bind_some, isText]
  exact if_neg notBlank

theorem ownToken?_of_generated (generated : IsGenerated token)
    (file : before.fileAt? Layout.callbackToken.names = some (token.toUTF8, true)) :
    ownToken? before = some token := by
  have decoded : (Utf8.decode token.toUTF8).toOption = some token := by
    rw [Utf8.decode_toUTF8]
    rfl
  rw [ownToken?, file]
  simp only [Option.bind_eq_bind, Option.bind_some, decoded]
  exact tokenOf?_of_generated generated

/-- Where the directory of the tokens is, the reader finds what stands in the file. -/
theorem ownToken?_of_read {content : Option String}
    (directory : before.entryAt? ["credentials"] = some .directory)
    (read : (readOptional Layout.callbackToken).run before = (.ok content, after)) :
    ownToken? before = tokenOf? (content.getD "") := by
  have tokenFile : IsTokenFile Layout.callbackToken := ⟨rfl, _, rfl⟩
  obtain ⟨_, _, ⟨text, found, rfl⟩ | ⟨missing, rfl⟩⟩ := readOptional_ok read
  · obtain ⟨octets, isPrivate, isFile, decoded⟩ := textOf_ok found
    have entry := (find_file_iff.mp isFile).2.2.2
    rw [ownToken?, fileAt?_of_entry entry]
    simp only [Option.bind_eq_bind, Option.bind_some, decoded]
    rfl
  · have absent := absent_of_find (reaches_of_tokenFile tokenFile directory) tokenFile.nonempty
      (find_of_textOf_notFound missing)
    rw [ownToken?, fileAt?_of_absent absent]
    rfl

theorem file_of_takeLock {result : Except TokenError Unit}
    (ran : takeLock.run before = (result, after)) :
    after.fileAt? Layout.callbackToken.names = before.fileAt? Layout.callbackToken.names := by
  have changes : ChangesOnly [Layout.tokensLock.names] before after :=
    (takeLock_within List.mem_cons_self).reaches ran
  exact changes.fileAt? (by decide)

end Keeping

/-! ## Other calls on the tokens -/

theorem use_within (use : Use) : ∃ kind, Within (ChangesOnly (footprint kind)) use.perform := by
  cases use with
  | issue kind token expiry =>
      exact ⟨kind, within_bind issue_within fun _ => within_pure _⟩
  | issueForWorker base =>
      exact ⟨_, within_bind (issueForWorker_within base) fun _ => within_pure _⟩
  | consume kind token now =>
      exact ⟨kind, within_bind consume_within fun _ => within_pure _⟩

theorem callbackFor_within (peer : String) :
    Within (ChangesOnly [Layout.tokensLock.names]) (callbackFor peer) :=
  within_bind (takeLock_within List.mem_cons_self) fun _ =>
    within_bind (within_of_still (readLines_within _)) fun _ => within_pure _

/-- Only a call for the own token can change its file. -/
theorem perform_within {call : Call} (other : ∀ fresh, call ≠ .own fresh) :
    ∃ touched, Layout.callbackToken.names ∉ touched ∧
      Within (ChangesOnly touched) call.perform := by
  cases call with
  | own fresh => exact absurd rfl (other fresh)
  | store peer token => exact ⟨_, by decide, storeCallback_within peer token⟩
  | lookup peer =>
      exact ⟨_, by decide, within_bind (callbackFor_within peer) fun _ => within_pure _⟩
  | single use =>
      obtain ⟨kind, changes⟩ := use_within use
      refine ⟨footprint kind, ?_, within_bind changes fun _ => within_pure _⟩
      cases kind <;> decide

end Tokens
end ClusterAgent
