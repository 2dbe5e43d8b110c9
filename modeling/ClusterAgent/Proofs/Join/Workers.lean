import ClusterAgent.Proofs.Join.Handout
namespace ClusterAgent
namespace Join

open Running World

/-! ## Workers that join -/

section Workers

variable {surroundings : Surroundings} {patience : Patience} {protocol : Protocol}
  {request : Request} {remote : IpAddress} {override : Option String} {admitted : Admitted}
  {credentials : Credentials} {response : Response} {before after : World}

/-- The data directory stays as it is when the nodes of the control plane are listed. -/
def ListsElsewhere (surroundings : Surroundings) : Prop :=
  ∀ world, (surroundings.listNodes.run world).2.disk = world.disk

theorem workerCredentials_ok (elsewhere : ListsElsewhere surroundings)
    (ran : (workerCredentials surroundings request).run before = (.ok credentials, after)) :
    ∃ tokens, (Tokens.issueForWorker request.token).run before.disk = (.ok tokens, after.disk) := by
  obtain ⟨tokens, issued, issuing, ran⟩ := bind_ok ran
  obtain ⟨issuing, _⟩ := onDisk_ran (adapt_ok issuing)
  obtain ⟨nodes, listed, listing, ran⟩ := bind_ok ran
  cases ran
  obtain ⟨_, called, calling, listing⟩ := bind_ok (adapt_ok listing)
  cases calling
  have still : after.disk = issued.disk :=
    (congrArg (fun result => result.2.disk) listing).symm.trans (elsewhere _)
  exact ⟨tokens, still ▸ issuing⟩

theorem finish_worker (names : List String) (elsewhere : ListsElsewhere surroundings)
    (isWorker : request.worker = true)
    (ran : (finish surroundings protocol request remote admitted).run before =
      (.ok credentials, after)) :
    ∃ issuing tokens,
      (Tokens.issueForWorker request.token).run issuing.disk = (.ok tokens, after.disk) ∧
        (surroundings.LeaveAlone names → names ∉ finishFootprint →
          Spares names before issuing) := by
  obtain ⟨_, patched, patching, ran⟩ := bind_ok ran
  obtain ⟨_, marked, marking, ran⟩ := bind_ok ran
  rw [if_pos isWorker] at ran
  obtain ⟨tokens, issuing⟩ := workerCredentials_ok elsewhere ran
  refine ⟨marked, tokens, issuing, fun leave apart => ?_⟩
  have apartManifest : names ∉ [Layout.networkManifest.names, Layout.networkManifest.temporary] :=
    fun member => apart (by simp_all [finishFootprint])
  have apartMarker : names ∉ [Layout.noReissueMarker.names] :=
    fun member => apart (by simp_all [finishFootprint])
  have toPatched : Spares names before patched :=
    (within_tolerate (patchManifest_calm leave.obey (clears_spares apartManifest) _ _)).reaches
      patching
  have toMarked : Spares names patched marked :=
    (within_tolerate (onDisk_calm (Disk.touch_within List.mem_cons_self)
      (clears_spares apartMarker))).reaches marking
  exact spares_trans toPatched toMarked

/-- The list in which the tokens of workers stand is left alone. -/
abbrev SparesRequests : World → World → Prop :=
  Spares Layout.certificateRequestTokens.names

/-- The tokens of a worker are issued last. -/
theorem complete_worker (elsewhere : ListsElsewhere surroundings)
    (isWorker : request.worker = true)
    (ran : (complete surroundings protocol request remote override admitted).run before =
      (.ok response, after)) :
    ∃ issuing tokens,
      (Tokens.issueForWorker request.token).run issuing.disk = (.ok tokens, after.disk) ∧
        (surroundings.LeaveAlone Layout.certificateRequestTokens.names →
          SparesRequests before issuing) := by
  rw [complete_eq] at ran
  obtain ⟨_, drawn, drew, ran⟩ := bind_ok ran
  obtain ⟨_, called, owned, ran⟩ := bind_ok ran
  obtain ⟨_, certified, readAuthority, ran⟩ := bind_ok ran
  obtain ⟨_, flagged, readFlags, ran⟩ := bind_ok ran
  obtain ⟨_, _, fetched, ran⟩ := bind_ok ran
  cases fetched
  obtain ⟨_, _, finished, ran⟩ := bind_ok ran
  cases ran
  obtain ⟨issuing, tokens, issued, spares⟩ :=
    finish_worker Layout.certificateRequestTokens.names elsewhere isWorker finished
  refine ⟨issuing, tokens, issued, fun leave => ?_⟩
  have toDrawn : SparesRequests before drawn := (drawToken_calm surroundings).reaches drew
  have toCalled : SparesRequests drawn called :=
    (onTokens_spares (Tokens.ownCallback_within _) (by decide)).reaches owned
  have toCertified : SparesRequests called certified :=
    (onState_calm (Disk.readWhole_within _)).reaches readAuthority
  have toFlagged : SparesRequests certified flagged :=
    (onState_calm (Disk.readWhole_within _)).reaches readFlags
  calc
    SparesRequests before drawn := toDrawn
    SparesRequests _ called := toCalled
    SparesRequests _ certified := toCertified
    SparesRequests _ flagged := toFlagged
    SparesRequests _ issuing := spares leave (by decide)

/-- A join of a worker ends with the issue of its tokens, and nothing before that touches the
list in which they stand. -/
theorem join_worker (elsewhere : ListsElsewhere surroundings) (isWorker : request.worker = true)
    (ran : (join surroundings patience protocol request).run before = (.ok response, after)) :
    ∃ issuing tokens,
      (Tokens.issueForWorker request.token).run issuing.disk = (.ok tokens, after.disk) ∧
        (surroundings.LeaveAlone Layout.certificateRequestTokens.names →
          SparesRequests before issuing) := by
  obtain ⟨spent, consumed, granted⟩ := join_ok ran
  obtain ⟨remote, override, admitted, middle, _, _, admission, completed⟩ := grant_ok granted
  obtain ⟨issuing, tokens, issued, spares⟩ := complete_worker elsewhere isWorker completed
  refine ⟨issuing, tokens, issued, fun leave => ?_⟩
  have spending : Disk.ChangesOnly (Tokens.footprint .cluster) before.disk spent :=
    Tokens.consume_within.reaches consumed
  have toSpent : SparesRequests before { before with disk := spent } :=
    spares_of_changes spending (by decide) rfl
  have toAdmitted : SparesRequests { before with disk := spent } middle :=
    (admitBy_calm leave.obey (clears_spares (by decide)) patience protocol request remote).reaches
      admission
  calc
    SparesRequests before { before with disk := spent } := toSpent
    SparesRequests _ middle := toAdmitted
    SparesRequests _ issuing := spares leave

end Workers

end Join
end ClusterAgent
