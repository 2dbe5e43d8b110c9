import ClusterAgent.Proofs.Tokens.Lookups
namespace ClusterAgent
namespace Tokens

open Disk Running Text

/-! ## The lines of a peer -/

/-- The line begins with the peer. -/
def isLineOf (peer line : List Char) : Bool :=
  (words line).head? == some peer

/-- The lines that begin with the peer, in their order. -/
def linesFor (peer : String) (disk : Disk) : List (List Char) :=
  (linesAt disk Layout.callbackTokens.names).filter (isLineOf peer.toList)

/-- The line that a store writes. -/
def callbackLine (peer token : String) : List Char :=
  peer.toList ++ ' ' :: token.toList

section Lines

variable {peer other token : List Char}

theorem isLineOf_withoutReturn (peer line : List Char) :
    isLineOf peer (withoutReturn line) = isLineOf peer line := by
  rw [isLineOf, isLineOf, words_withoutReturn]

theorem head?_of_isLineOf {line : List Char} (isLine : isLineOf peer line = true) :
    (words line).head? = some peer := by
  simpa [isLineOf] using isLine

theorem isLineOf_entry (peerNonempty : peer ≠ []) (peerSolid : Solid peer)
    (tokenNonempty : token ≠ []) (tokenSolid : Solid token) :
    isLineOf peer (peer ++ ' ' :: token) = true := by
  rw [isLineOf, words_append peerNonempty peerSolid rfl, words_of_solid tokenNonempty tokenSolid]
  simp

/-- What is found for a peer is found on the lines that begin with it. -/
theorem findSome?_filter_isLineOf (peer : List Char) (lines : List (List Char)) :
    (lines.filter (isLineOf peer)).findSome? (callbackOn peer) =
      lines.findSome? (callbackOn peer) := by
  induction lines with
  | nil => rfl
  | cons line lines inductionHypothesis =>
      by_cases isLine : isLineOf peer line = true
      · rw [List.filter_cons_of_pos isLine, List.findSome?_cons, List.findSome?_cons,
          inductionHypothesis]
      · have notHere : callbackOn peer line = none :=
          callbackOn_of_other (by simpa [isLineOf] using isLine)
        rw [List.filter_cons_of_neg isLine, inductionHypothesis, List.findSome?_cons, notHere]

theorem filter_replaceCallback (own : isLineOf peer (peer ++ ' ' :: token) = true)
    (lines : List (List Char)) :
    (replaceCallback peer token lines).filter (isLineOf peer) = [peer ++ ' ' :: token] := by
  have noneKept : (lines.filter fun line => (words line).head? != some peer).filter
      (isLineOf peer) = [] := by
    rw [List.filter_eq_nil_iff]
    intro line member isLine
    have notOwn := (List.mem_filter.mp member).2
    rw [head?_of_isLineOf isLine] at notOwn
    simp at notOwn
  rw [replaceCallback, List.filter_append, noneKept, List.nil_append,
    List.filter_cons_of_pos own, List.filter_nil]

theorem filter_replaceCallback_other (different : other ≠ peer)
    (own : isLineOf peer (peer ++ ' ' :: token) = true) (lines : List (List Char)) :
    (replaceCallback peer token lines).filter (isLineOf other) = lines.filter (isLineOf other) := by
  have notAdded : ¬isLineOf other (peer ++ ' ' :: token) = true := by
    intro isLine
    have same := (head?_of_isLineOf isLine).symm.trans (head?_of_isLineOf own)
    exact different (Option.some.inj same)
  rw [replaceCallback, List.filter_append, List.filter_cons_of_neg notAdded, List.filter_nil,
    List.append_nil, List.filter_filter]
  refine List.filter_congr fun line _ => ?_
  by_cases isLine : isLineOf other line = true
  · have first := head?_of_isLineOf isLine
    simp [isLine, first, different]
  · simp [isLine]

end Lines

/-! ## What a store does to the lines of a peer -/

section Storing

variable {peer other token : String} {before after : Disk}

theorem callbackIn_eq (peer : String) (disk : Disk) :
    callbackIn peer disk =
      ((linesFor peer disk).findSome? (callbackOn peer.toList)).map String.ofList := by
  rw [callbackIn, linesFor, findSome?_filter_isLineOf]

theorem linesFor_congr
    (same : after.fileAt? Layout.callbackTokens.names =
      before.fileAt? Layout.callbackTokens.names) (peer : String) :
    linesFor peer after = linesFor peer before := by
  rw [linesFor, linesFor, linesAt_congr same]

theorem filter_map_withoutReturn (peer : List Char) (lines : List (List Char)) :
    (lines.map withoutReturn).filter (isLineOf peer) =
      (lines.filter (isLineOf peer)).map withoutReturn := by
  rw [List.filter_map]
  congr 1
  exact List.filter_congr fun line _ => isLineOf_withoutReturn peer line

theorem isLineOf_callbackLine (ran : (storeCallback peer token).run before = (.ok (), after)) :
    isLineOf peer.toList (callbackLine peer token) = true := by
  obtain ⟨allowed, peerNonempty, peerSolid, _⟩ := storeCallback_ok ran
  exact isLineOf_entry (by simpa using peerNonempty) peerSolid
    (by simpa using ne_empty_of_checkToken allowed) (solid_of_checkToken allowed)

theorem withoutReturn_callbackLine (peer : String) (solid : Solid token.toList) :
    withoutReturn (callbackLine peer token) = callbackLine peer token := by
  refine withoutReturn_eq_self fun last => ?_
  rw [callbackLine, List.getLast?_append_cons] at last
  rcases List.mem_cons.mp (List.mem_of_getLast? last) with isSpace | member
  · cases isSpace
  · cases solid '\r' member

theorem linesFor_stored (ran : (storeCallback peer token).run before = (.ok (), after)) :
    linesFor peer after = [callbackLine peer token] := by
  obtain ⟨allowed, _, _, lines⟩ := storeCallback_ok ran
  rw [linesFor, lines, filter_map_withoutReturn,
    filter_replaceCallback (isLineOf_callbackLine ran), ← callbackLine, List.map_singleton,
    withoutReturn_callbackLine peer (solid_of_checkToken allowed)]

theorem linesFor_stored_other (different : other ≠ peer)
    (ran : (storeCallback peer token).run before = (.ok (), after)) :
    linesFor other after = (linesFor other before).map withoutReturn := by
  obtain ⟨_, _, _, lines⟩ := storeCallback_ok ran
  have otherPeer : other.toList ≠ peer.toList := fun same => different (String.toList_inj.mp same)
  rw [linesFor, lines, filter_map_withoutReturn,
    filter_replaceCallback_other otherPeer (isLineOf_callbackLine ran), linesFor]

theorem callbackIn_stored_other (different : other ≠ peer)
    (ran : (storeCallback peer token).run before = (.ok (), after)) :
    callbackIn other after = callbackIn other before := by
  have sameLines : callbackOn other.toList ∘ withoutReturn = callbackOn other.toList :=
    funext fun line => callbackOn_withoutReturn _ line
  rw [callbackIn_eq, callbackIn_eq, linesFor_stored_other different ran, List.findSome?_map,
    sameLines]

end Storing

/-! ## Calls one after another -/

/-- What may be asked of the tokens. -/
inductive Call
  | store (peer token : String)
  | lookup (peer : String)
  | own (fresh : String)
  | single (use : Use)
  deriving DecidableEq, Repr

namespace Call

def perform : Call → Step TokenError Unit
  | .store peer token => storeCallback peer token
  | .lookup peer => do
      let _ ← callbackFor peer
  | .own fresh => do
      let _ ← ownCallback fresh
  | .single use => do
      let _ ← use.perform

end Call

/-- The calls in the order in which the lock lets them through, each with whether it succeeded. A
call that fails does not hold up the others. -/
def serve : List Call → Disk → List (Call × Bool) × Disk
  | [], disk => ([], disk)
  | call :: calls, disk =>
      let (result, middle) := call.perform.run disk
      let (log, after) := serve calls middle
      ((call, result.isOk) :: log, after)

/-- The token that a call has stored for a peer. -/
def storedFor (peer : String) : Call × Bool → Option String
  | (.store other token, true) => if other = peer then some token else none
  | _ => none

/-- The token that was stored last for a peer. -/
def latest (peer : String) (log : List (Call × Bool)) : Option String :=
  log.reverse.findSome? (storedFor peer)

/-- The token is found for the peer, and one line begins with the peer, the one that was stored. -/
structure Keeps (peer token : String) (disk : Disk) : Prop where
  found : lookup peer disk = .ok (some token)
  line : linesFor peer disk = [callbackLine peer token]
  solid : Solid token.toList

section Calls

variable {call : Call} {calls : List Call} {peer other token : String} {before after : Disk}
  {result : Except TokenError Unit}

theorem latest_cons (peer : String) (entry : Call × Bool) (log : List (Call × Bool)) :
    latest peer (entry :: log) = (latest peer log).or (storedFor peer entry) := by
  rw [latest, latest, List.reverse_cons, List.findSome?_append, List.findSome?_singleton]

theorem serve_cons (call : Call) (calls : List Call) (disk : Disk) :
    serve (call :: calls) disk =
      ((call, (call.perform.run disk).1.isOk) :: (serve calls (call.perform.run disk).2).1,
        (serve calls (call.perform.run disk).2).2) :=
  rfl

/-- A change that leaves the lines of a peer, up to carriage returns, and what is found. -/
theorem Keeps.of_same (keeps : Keeps peer token before)
    (found : lookup peer after = lookup peer before)
    (lines : linesFor peer after = linesFor peer before ∨
      linesFor peer after = (linesFor peer before).map withoutReturn) :
    Keeps peer token after := by
  refine ⟨found.trans keeps.found, ?_, keeps.solid⟩
  rcases lines with same | shorter
  · rw [same, keeps.line]
  · rw [shorter, keeps.line, List.map_singleton, withoutReturn_callbackLine peer keeps.solid]

theorem keeps_of_stored (ran : (storeCallback peer token).run before = (.ok (), after)) :
    Keeps peer token after := by
  refine ⟨?_, linesFor_stored ran, solid_of_checkToken (storeCallback_ok ran).1⟩
  rw [(lookup_stored peer ran).2, callbackIn_stored ran]

theorem place_beside (kind : Kind) : Beside [kind.place.names, kind.place.temporary] := by
  cases kind
  · exact ⟨by decide, by decide, by decide⟩
  · exact ⟨by decide, by decide, by decide⟩

theorem use_keeps (use : Use) : Within KeepsCallbacks use.perform := by
  have issuing (kind : Kind) (token : String) (expiry : Option Int) :
      Within KeepsCallbacks (issue kind token expiry) :=
    within_mono issue_locked fun _ _ => keepsCallbacks_of_changes (place_beside kind)
  cases use with
  | issue kind token expiry => exact within_bind (issuing _ _ _) fun _ => within_pure _
  | issueForWorker base =>
      exact within_bind (within_mapM fun _ => within_bind (issuing _ _ _) fun _ => within_pure _)
        fun _ => within_pure _
  | consume kind token now =>
      exact within_bind (within_mono consume_locked fun _ _ =>
        keepsCallbacks_of_changes (place_beside kind)) fun _ => within_pure _

theorem callbackFor_keeps (peer : String) : Within KeepsCallbacks (callbackFor peer) := by
  have locked : Within (LockedChanges []) (callbackFor peer) :=
    lockedChanges_bind (within_bind (within_of_still (readLines_within _)) fun _ => within_pure _)
  exact within_mono locked fun _ _ =>
    keepsCallbacks_of_changes ⟨by decide, by decide, by decide⟩

theorem ownCallback_keeps (fresh : String) : Within KeepsCallbacks (ownCallback fresh) :=
  within_mono (ownCallback_locked fresh) fun _ _ =>
    keepsCallbacks_of_changes ⟨by decide, by decide, by decide⟩

theorem store_keeps_others (different : other ≠ peer)
    (ran : (storeCallback peer token).run before = (.ok (), after)) :
    lookup other after = lookup other before ∧
      ∀ kept, Keeps other kept before → Keeps other kept after := by
  have found : lookup other after = lookup other before := by
    obtain ⟨foundBefore, foundAfter⟩ := lookup_stored other ran
    rw [foundBefore, foundAfter, callbackIn_stored_other different ran]
  exact ⟨found, fun kept keeps => keeps.of_same found (.inr (linesFor_stored_other different ran))⟩

/-- What becomes of a peer when this token, if any, is stored for it last. -/
structure Follows (peer : String) (stored : Option String) (before after : Disk) : Prop where
  keeps : ∀ token, stored = some token → Keeps peer token after
  found : stored = none → lookup peer after = lookup peer before
  still : stored = none → ∀ token, Keeps peer token before → Keeps peer token after

theorem Follows.refl (peer : String) (disk : Disk) : Follows peer none disk disk :=
  ⟨fun _ stored => (nomatch stored), fun _ => rfl, fun _ _ keeps => keeps⟩

theorem Follows.trans {first second : Option String} {middle : Disk}
    (one : Follows peer first before middle) (next : Follows peer second middle after) :
    Follows peer (second.or first) before after := by
  cases second with
  | some token =>
      exact ⟨fun _ stored => next.keeps _ stored, fun stored => (nomatch stored),
        fun stored => (nomatch stored)⟩
  | none =>
      rw [Option.none_or]
      exact ⟨fun token stored => next.still rfl token (one.keeps token stored),
        fun stored => (next.found rfl).trans (one.found stored),
        fun stored token keeps => next.still rfl token (one.still stored token keeps)⟩

theorem follows_of_keepsCallbacks (kept : KeepsCallbacks before after) (peer : String) :
    Follows peer none before after :=
  ⟨fun _ stored => (nomatch stored), fun _ => kept.found peer, fun _ _ keeps =>
    keeps.of_same (kept.found peer) (.inl (linesFor_congr kept.file peer))⟩

theorem follows_of_store (ran : (storeCallback other token).run before = (.ok (), after))
    (peer : String) : Follows peer (if other = peer then some token else none) before after := by
  by_cases same : other = peer
  · subst same
    rw [if_pos rfl]
    refine ⟨?_, fun stored => (nomatch stored), fun stored => (nomatch stored)⟩
    intro stored isStored
    rw [← Option.some.inj isStored]
    exact keeps_of_stored ran
  · rw [if_neg same]
    obtain ⟨found, keeps⟩ := store_keeps_others (Ne.symm same) ran
    exact ⟨fun _ stored => (nomatch stored), fun _ => found, fun _ => keeps⟩

/-- One call: only a store that succeeds changes what is found, and only for its own peer. -/
theorem follows_of_perform (ran : call.perform.run before = (result, after)) (peer : String) :
    Follows peer (storedFor peer (call, result.isOk)) before after := by
  cases call with
  | store other token =>
      cases result with
      | ok done => exact follows_of_store ran peer
      | error error =>
          exact follows_of_keepsCallbacks (keepsCallbacks_of_changes
            ⟨by decide, by decide, by decide⟩ (storeCallback_failed ran)) peer
  | lookup asked =>
      exact follows_of_keepsCallbacks
        ((within_bind (callbackFor_keeps asked) fun _ => within_pure _).reaches ran) peer
  | own fresh =>
      exact follows_of_keepsCallbacks
        ((within_bind (ownCallback_keeps fresh) fun _ => within_pure _).reaches ran) peer
  | single use =>
      exact follows_of_keepsCallbacks
        ((within_bind (use_keeps use) fun _ => within_pure _).reaches ran) peer

theorem follows_of_serve (calls : List Call) (before : Disk) (peer : String) :
    Follows peer (latest peer (serve calls before).1) before (serve calls before).2 := by
  -- The first call comes first in the log, where a later store for the peer takes over.
  induction calls generalizing before with
  | nil => exact Follows.refl peer before
  | cons call calls inductionHypothesis =>
      rw [serve_cons, latest_cons]
      exact (follows_of_perform rfl peer).trans (inductionHypothesis _)

/-- Whether a token can be kept for a peer. -/
def Storable (peer token : String) : Prop :=
  checkToken token = .ok () ∧ peer ≠ "" ∧ Solid peer.toList

theorem invalid_of_checkToken {error : TokenError} (refused : checkToken token = .error error) :
    ∃ reason, error = .invalid reason := by
  rw [checkToken] at refused
  split at refused
  · cases refused
    exact ⟨_, rfl⟩
  · split at refused
    · cases refused
      exact ⟨_, rfl⟩
    · cases refused

theorem storeCallback_unstorable (unstorable : ¬Storable peer token) (disk : Disk) :
    ∃ reason, (storeCallback peer token).run disk = (.error (.invalid reason), disk) := by
  cases checked : checkToken token with
  | error error =>
      obtain ⟨reason, rfl⟩ := invalid_of_checkToken checked
      refine ⟨reason, ?_⟩
      rw [storeCallback, run_bind, checked]
      rfl
  | ok allowed =>
      have unfit : (peer.isEmpty || peer.toList.any isBlank) = true := by
        by_contra fit
        rw [Bool.or_eq_true, not_or] at fit
        refine unstorable ⟨checked, by simpa using fit.1, ?_⟩
        simpa [Solid] using fit.2
      rw [storeCallback, run_given checked]
      rw [if_pos unfit]
      exact ⟨_, rfl⟩

/-- The file of the callback tokens is a map from peers to the tokens that were stored for them
last, over every run of calls: what is found for a peer is the token stored last, on the only line
that begins with the peer, or what was found at the start. A store that is refused for its texts
changes nothing. -/
theorem callbacks_map_peers (calls : List Call) (before : Disk) (peer : String) :
    (∀ token, latest peer (serve calls before).1 = some token →
      ((callbackFor peer).run (serve calls before).2).1 = .ok (some token) ∧
        (linesAt (serve calls before).2 Layout.callbackTokens.names).filter
            (fun line => (words line).head? == some peer.toList) =
          [peer.toList ++ ' ' :: token.toList]) ∧
      (latest peer (serve calls before).1 = none →
        ((callbackFor peer).run (serve calls before).2).1 = ((callbackFor peer).run before).1) ∧
        ∀ (token : String) (disk : Disk),
          (¬Storable peer token →
            ∃ reason, (storeCallback peer token).run disk = (.error (.invalid reason), disk)) ∧
          ∀ reason after, (storeCallback peer token).run disk = (.error (.invalid reason), after) →
            after = disk := by
  have follows := follows_of_serve calls before peer
  refine ⟨fun token stored => ?_, follows.found, fun token disk => ?_⟩
  · have keeps := follows.keeps token stored
    exact ⟨keeps.found, keeps.line⟩
  · exact ⟨fun unstorable => storeCallback_unstorable unstorable disk,
      fun reason after => storeCallback_invalid⟩

end Calls

/-! ## A run on a file with odd lines -/

/-- One peer has a line without a token and two with one, the other a line that ends no file. -/
def keptTokens : Disk :=
  { Disk.empty "/data" with
    entries :=
      [(["credentials"], .directory),
        (["credentials", "callback-tokens.txt"],
          .file "a:1\n\n a:1 old more \r\na:1 older\na:10 ten".toUTF8 false)] }

/-- Two stores for a peer, one for another, one that is refused, and other calls between them. -/
def sampleCalls : List Call :=
  [.lookup "a:1", .store "a:1" "new", .own "fresh", .store "b:1" "beta", .store "a:1" "bad token",
    .single (.issue .cluster "abc" none), .store "a:1" "newer", .lookup "a:1"]

theorem sampleCalls_map_peers :
    ((callbackFor "a:1").run (serve sampleCalls keptTokens).2).1 = .ok (some "newer") ∧
      ((callbackFor "a:10").run (serve sampleCalls keptTokens).2).1 =
        ((callbackFor "a:10").run keptTokens).1 ∧
        ((callbackFor "a:10").run keptTokens).1.toOption = some (some "ten") := by
  obtain ⟨stored, -, -⟩ := callbacks_map_peers sampleCalls keptTokens "a:1"
  obtain ⟨-, others, -⟩ := callbacks_map_peers sampleCalls keptTokens "a:10"
  exact ⟨(stored "newer" (by decide +kernel)).1, others (by decide +kernel), by decide +kernel⟩

end Tokens
end ClusterAgent
