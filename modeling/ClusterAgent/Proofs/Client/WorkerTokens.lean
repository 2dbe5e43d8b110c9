import ClusterAgent.Proofs.Client.Decoding
import ClusterAgent.Proofs.Client.Install
import ClusterAgent.Proofs.Join.Workers
import ClusterAgent.Proofs.Tokens.Presenting
namespace ClusterAgent
namespace Install

open Disk Running Tokens World

/-! ## The tokens that a worker keeps -/

/-- The lines of the file with the tokens of a worker. -/
def workerLines (token : String) : List (List Char) :=
  workerRoles.map fun role => (workerToken token role).toList

section Keeping

variable {protocol : Join.Protocol} {peer token : String} {bundle : Bundle} {before after : Disk}

theorem workerTokens_eq (token : String) :
    workerTokens token = String.ofList (Text.unlines (workerLines token)) := by
  have lines : ∀ role : String, (workerToken token role ++ "\n").toList =
      (workerToken token role).toList ++ ['\n'] :=
    fun role => String.toList_append
  rw [← String.toList_inj, String.toList_ofList, workerTokens, String.toList_join,
    List.flatMap_map, Text.unlines, workerLines, List.flatMap_map]
  simp only [lines]

theorem install_worker_stores
    (installed : (install protocol peer token true bundle).run before = (.ok (), after)) :
    after.Stores Layout.workerTokens (workerTokens token) := by
  obtain ⟨_, shared, _, rest⟩ := bind_ok installed
  exact secret_stores rest

theorem linesAt_of_stores {place : Place} {text : String} (stored : after.Stores place text) :
    linesAt after place.names = Text.lines text.toList := by
  obtain ⟨_, isPrivate, file⟩ := stored
  rw [linesAt, fileAt?_of_entry file]
  simp only [Utf8.decode_toUTF8]

/-- The worker keeps its tokens as they are, each on a line of its own. -/
theorem linesAt_installed
    (allowed : ∀ role ∈ workerRoles, checkToken (workerToken token role) = .ok ())
    (installed : (install protocol peer token true bundle).run before = (.ok (), after)) :
    linesAt after Layout.workerTokens.names = workerLines token := by
  have lineSolid : ∀ line ∈ workerLines token, Text.Solid line := by
    intro line member
    obtain ⟨role, isRole, rfl⟩ := List.mem_map.mp member
    exact solid_of_checkToken (allowed role isRole)
  have noFeed : ∀ line ∈ workerLines token, '\n' ∉ line :=
    fun line member => (lineSolid line member).feed_not_mem
  have kept : ∀ line ∈ workerLines token, Text.withoutReturn line = line := by
    intro line member
    refine Text.withoutReturn_eq_self fun last => ?_
    cases lineSolid line member '\r' (List.mem_of_getLast? last)
  rw [linesAt_of_stores (install_worker_stores installed), workerTokens_eq, String.toList_ofList,
    Text.lines_unlines noFeed, List.map_congr_left kept, List.map_id']

end Keeping

/-! ## Both sides -/

section Agreeing

variable {surroundings : Surroundings} {patience : Join.Patience} {protocol api : Join.Protocol}
  {request : Join.Request} {server served : World} {response : Join.Response} {peer : String}
  {bundle : Bundle} {node after : Disk}

/-- The tokens that a worker keeps when it has joined are those that the server has issued for it:
presented for certificates in any order and at any time, each is accepted the first time, whatever
else is presented or issued in between; and only that time, unless the server had entries of the
same name. Nor is a token that was issued ever at fault when the tokens of a worker are made of
it. -/
theorem worker_tokens_accepted (elsewhere : Join.ListsElsewhere surroundings)
    (isWorker : request.worker = true)
    (joined : (Join.join surroundings patience protocol request).run server =
      (.ok response, served))
    (installed : (install api peer request.token true bundle).run node = (.ok (), after)) :
    linesAt after Layout.workerTokens.names = workerLines request.token ∧
      (∀ uses, (∀ use ∈ uses, use.IsPresentation .certificateRequest) →
        ∃ answers last, (performAll uses).run served.disk = (.ok answers, last)) ∧
      (∀ line ∈ linesAt after Layout.workerTokens.names, ∀ uses answers last,
        (performAll uses).run served.disk = (.ok answers, last) →
          FirstAccepted .certificateRequest (String.ofList line) uses answers ∧
            (surroundings.LeaveAlone Layout.certificateRequestTokens.names →
              NoneDue Layout.certificateRequestTokens.names server →
              copies (String.ofList line) (entriesIn .certificateRequest server.disk) = 0 →
              timesIssued .certificateRequest (String.ofList line) uses = 0 →
              (∃ use ∈ uses, use.presents .certificateRequest (String.ofList line) = true) →
                timesAccepted .certificateRequest (String.ofList line) uses answers = 1)) ∧
      ∀ token expiry before later, (issue .cluster token expiry).run before = (.ok (), later) →
        Avoids IsInvalid (issueForWorker token) := by
  obtain ⟨issuing, tokens, issued, spares⟩ := Join.join_worker elsewhere isWorker joined
  have allowed := checkToken_of_issueForWorker issued
  have lines := linesAt_installed allowed installed
  have entries := issueForWorker_ok issued
  refine ⟨lines, fun uses presentations => ?_, ?_, fun _ _ _ _ => issueForWorker_avoids⟩
  · obtain ⟨answers, last, ran, _⟩ :=
      presentations_usable presentations served.disk (usable_of_issueForWorker issued)
    exact ⟨answers, last, ran⟩
  · intro line member uses answers last ran
    rw [lines] at member
    obtain ⟨role, isRole, rfl⟩ := List.mem_map.mp member
    rw [String.ofList_toList]
    have chronicle := chronicle_of_run ran
    have nonempty := workerToken_ne_empty request.token role
    have present : ⟨(workerToken request.token role).toList, none⟩ ∈
        entriesIn .certificateRequest served.disk := by
      rw [entries]
      exact List.mem_append_right _ (List.mem_map_of_mem isRole)
    refine ⟨firstAccepted_of_chronicle nonempty chronicle present, ?_⟩
    intro leave noneDue noneBefore notIssued presented
    refine timesAccepted_eq_one nonempty chronicle present ?_ notIssued presented
    have untouched : entriesIn .certificateRequest issuing.disk =
        entriesIn .certificateRequest server.disk :=
      congrArg (List.map Entry.ofLine) (linesAt_congr (spares leave noneDue).file)
    rw [entries, copies_append, untouched, noneBefore,
      copies_workerToken (by decide) isRole]

end Agreeing

/-! ## A worker of a moved store -/

def workerCalling : Join.Request :=
  { Join.memberCalling "10.0.0.1:25001" "10.0.0.2" with worker := true }

def workerResponse : Join.Response :=
  { Join.memberResponse "10.0.0.2" [] with credentials := .worker ["10.0.0.1"] }

def workerServed : World :=
  ((Join.join Rehearsal.quiet .endless .replicatedStore workerCalling).run Join.movedStore).2

theorem movedStore_admits_worker :
    (Join.join Rehearsal.quiet .endless .replicatedStore workerCalling).run Join.movedStore =
      (.ok workerResponse, workerServed) :=
  run_of_toOption (by decide +kernel)

def workerInstalled : Disk :=
  ((install .replicatedStore "10.0.0.1:25001" "abc" true (.ofResponse workerResponse)).run
    (Disk.empty "/node")).2

theorem workerResponse_installs :
    (install .replicatedStore "10.0.0.1:25001" "abc" true (.ofResponse workerResponse)).run
      (Disk.empty "/node") = (.ok (), workerInstalled) :=
  run_of_toOption (by decide +kernel)

/-- The worker asks for both certificates, and for one of them again. -/
def workerUses : List Use :=
  [.consume .certificateRequest "abc-proxy" 5, .consume .certificateRequest "abc-kubelet" 4,
    .consume .certificateRequest "abc-proxy" 6]

def workerAnswers : List (Option Bool) :=
  [some true, some true, some false]

theorem movedStore_worker_tokens_accepted :
    linesAt workerInstalled Layout.workerTokens.names = workerLines "abc" ∧
      (performAll workerUses).run workerServed.disk =
        (.ok workerAnswers, ((performAll workerUses).run workerServed.disk).2) ∧
      ∀ line ∈ workerLines "abc",
        FirstAccepted .certificateRequest (String.ofList line) workerUses workerAnswers ∧
          timesAccepted .certificateRequest (String.ofList line) workerUses workerAnswers = 1 := by
  obtain ⟨lines, _, accepted, _⟩ := worker_tokens_accepted (fun _ => rfl) rfl
    movedStore_admits_worker workerResponse_installs
  have ran : (performAll workerUses).run workerServed.disk =
      (.ok workerAnswers, ((performAll workerUses).run workerServed.disk).2) :=
    run_of_toOption (by decide +kernel)
  have noneBefore : ∀ line ∈ workerLines "abc",
      copies (String.ofList line) (entriesIn .certificateRequest Join.movedStore.disk) = 0 := by
    decide +kernel
  have presented : ∀ line ∈ workerLines "abc",
      ∃ use ∈ workerUses, use.presents .certificateRequest (String.ofList line) = true := by
    decide +kernel
  refine ⟨lines, ran, fun line member => ?_⟩
  obtain ⟨first, once⟩ := accepted line (lines ▸ member) _ _ _ ran
  refine ⟨first, once (Surroundings.rehearsal_leaveAlone (by decide) _ _) ?_
    (noneBefore line member) rfl (presented line member)⟩
  exact fun _ due => absurd due List.not_mem_nil

end Install
end ClusterAgent
