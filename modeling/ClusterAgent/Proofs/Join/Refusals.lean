import ClusterAgent.Proofs.Join.Stages
import ClusterAgent.Proofs.Refusing
import ClusterAgent.Proofs.Tokens.Operations
import ClusterAgent.Rehearsal.Storage
namespace ClusterAgent
namespace Join

open Running World

/-! ## Refusals -/

/-- The codes of the refusals that a join whose token was accepted may meet. -/
def refusalCodes : List String :=
  ["backend_mismatch", "port_mismatch", "invalid_request", "self_join", "hostname_mismatch",
    "already_member", "bind_address_not_found", "bootstrap_precondition"]

def IsRefusal (error : Error) : Prop :=
  error.code ∈ refusalCodes

theorem not_isRefusal_token (cause : TokenError) : ¬IsRefusal (.token cause) := by
  simp [IsRefusal, Error.code, refusalCodes]

theorem not_isRefusal_timeout : ¬IsRefusal .timeout := by
  simp [IsRefusal, Error.code, refusalCodes]

/-- Of the failures of the membership only one is a refusal. -/
theorem isRefusal_ofMembership {cause : MembershipError}
    (isRefusal : IsRefusal (.ofMembership cause)) : ∃ members, cause = .notBootstrap members := by
  cases cause with
  | notBootstrap members => exact ⟨members, rfl⟩
  | _ => simp [IsRefusal, Error.ofMembership, Error.code, refusalCodes] at isRefusal

/-! ## After the admission -/

section Completing

variable {refused : Error → Prop}

theorem avoids_tolerate {ε α : Type} (action : Activity ε α) :
    Avoids refused (tolerate action) := by
  intro before error after ran
  cases ran

theorem avoids_drawToken (surroundings : Surroundings) :
    Avoids refused surroundings.drawToken := by
  intro before error after ran
  cases ran

theorem onState_avoids {α : Type} (noState : ∀ cause, ¬refused (.state cause))
    (step : Disk.Step FileError α) : Avoids refused (onState step) :=
  avoids_adapt _ fun cause => noState cause.report

theorem workerCredentials_avoids (noToken : ∀ cause, ¬refused (.token cause))
    (noNodes : ∀ cause, ¬refused (.controlPlaneNodes cause)) (surroundings : Surroundings)
    (request : Request) : Avoids refused (workerCredentials surroundings request) :=
  avoids_bind (avoids_adapt _ noToken) fun _ =>
    avoids_bind (avoids_adapt _ noNodes) fun _ => avoids_pure _

theorem memberCredentials_avoids (noState : ∀ cause, ¬refused (.state cause))
    (protocol : Protocol) (admitted : Admitted) :
    Avoids refused (memberCredentials protocol admitted) :=
  avoids_bind (onState_avoids noState _) fun _ => avoids_bind (onState_avoids noState _) fun _ =>
    avoids_bind (avoids_adapt _ fun cause => noState cause.report) fun _ =>
      avoids_bind (onState_avoids noState _) fun _ => avoids_pure _

/-- Once a node is admitted only files and the cluster's API may fail its join. -/
theorem complete_avoids (noToken : ∀ cause, ¬refused (.token cause))
    (noState : ∀ cause, ¬refused (.state cause))
    (noNodes : ∀ cause, ¬refused (.controlPlaneNodes cause)) (surroundings : Surroundings)
    (protocol : Protocol) (request : Request) (remote : IpAddress) (override : Option String)
    (admitted : Admitted) :
    Avoids refused (complete surroundings protocol request remote override admitted) := by
  refine avoids_bind (avoids_drawToken surroundings) fun fresh =>
    avoids_bind (avoids_adapt _ noToken) fun callbackToken =>
      avoids_bind (onState_avoids noState _) fun authority =>
        avoids_bind (onState_avoids noState _) fun kubeletFlags =>
          avoids_bind avoids_get fun world => avoids_bind (avoids_tolerate _) fun _ =>
            avoids_bind (avoids_tolerate _) fun _ => ?_
  dsimp only
  split
  · exact avoids_bind (workerCredentials_avoids noToken noNodes surroundings request) fun _ =>
      avoids_pure _
  · exact avoids_bind (memberCredentials_avoids noState protocol admitted) fun _ =>
      avoids_pure _

end Completing

/-! ## Admission -/

section Admitting

variable (surroundings : Surroundings) (patience : Patience) (request : Request)
  (remote : IpAddress)

theorem avoids_onDisk {ε α : Type} {refused : ε → Prop} {step : Disk.Step ε α}
    (avoids : Avoids refused step) : Avoids refused (onDisk step) :=
  fun before error _ ran => avoids before.disk error _ (onDisk_ran ran).1

/-- A store that does not stand alone on loopback is found out before anything is written. -/
theorem moveBootstrap_refusedFirst (host : String) :
    RefusedFirst IsRefusal
      (ExceptT.adapt Error.ofMembership (Membership.moveBootstrap surroundings host)) := by
  refine refusedFirst_adapt (refusedFirst_check (onDisk_still Membership.read_within)
    fun snapshot => refusedFirst_check (fun _ => rfl) fun address => refusedFirst_of_avoids ?_)
  refine avoids_bind (avoids_onDisk (avoids_bind avoids_get fun disk => ?_)) fun _ => ?_
  · refine avoids_adapt _ fun cause isRefusal => ?_
    obtain ⟨members, impossible⟩ := isRefusal_ofMembership isRefusal
    cases impossible
  · refine avoids_adapt _ fun cause isRefusal => ?_
    obtain ⟨members, impossible⟩ := isRefusal_ofMembership isRefusal
    cases impossible

/-- A wait for the store fails because its time is up or because it is told to stop. -/
theorem error_of_awaitMove {surroundings : Surroundings} {patience : Patience}
    {before after : World} {error : Error}
    (ran : (awaitMove surroundings patience).run before = (.error error, after)) :
    error = .timeout ∨ error = .cancelled ∨ ∃ cause, error = .membershipTimeout cause := by
  have waited {result : Except Error Membership.Snapshot × World}
      (ranWait : (ExceptT.adapt Error.ofMembership (Membership.waitUntil surroundings
        before.shutdownAt Membership.Snapshot.hasMoved)).run before = result)
      (failed : result = (.error error, after)) :
      error = .cancelled ∨ ∃ cause, error = .membershipTimeout cause := by
    obtain ⟨cause, failedWait, rfl⟩ := adapt_error (ranWait.trans failed)
    rcases Membership.error_of_waitUntil failedWait with rfl | ⟨time, rfl⟩
    · exact Or.inl rfl
    · exact Or.inr ⟨_, rfl⟩
  rw [run_awaitMove] at ran
  dsimp only at ran
  split at ran
  · split at ran
    · cases ran
      exact Or.inl rfl
    · exact Or.inr (waited rfl ran)
  · exact Or.inr (waited rfl ran)

theorem awaitMove_avoids {refused : Error → Prop} (noTimeout : ¬refused .timeout)
    (noCancellation : ¬refused .cancelled)
    (noMembershipTimeout : ∀ cause, ¬refused (.membershipTimeout cause)) :
    Avoids refused (awaitMove surroundings patience) := by
  intro before error after ran
  rcases error_of_awaitMove ran with rfl | rfl | ⟨cause, rfl⟩
  · exact noTimeout
  · exact noCancellation
  · exact noMembershipTimeout cause

theorem refusedFirst_hold {α : Type} {next : Unit → Activity Error α}
    (second : ∀ value, RefusedFirst IsRefusal (next value)) :
    RefusedFirst IsRefusal (holdMembership patience >>= next) := by
  cases patience with
  | endless => exact refusedFirst_check (within_pure ()) second
  | «until» time membershipIsHeld =>
      cases membershipIsHeld with
      | false => exact refusedFirst_check (within_pure ()) second
      | true =>
          intro before error after ran isRefusal
          cases ran
          exact absurd isRefusal not_isRefusal_timeout

theorem admitToStore_refusedFirst :
    RefusedFirst IsRefusal (admitToStore surroundings patience request remote) := by
  rw [admitToStore_eq]
  refine refusedFirst_hold patience fun _ =>
    refusedFirst_check (within_adapt (onDisk_still Membership.read_within)) fun snapshot => ?_
  unfold admitAsSeen
  split
  · exact refusedFirst_of_still (within_throw _)
  · split
    · split
      · exact refusedFirst_of_still (within_throw _)
      · -- The wait follows a write, so that none of its failures may be a refusal.
        exact refusedFirst_bind (moveBootstrap_refusedFirst surroundings _) fun _ =>
          avoids_bind (awaitMove_avoids surroundings patience not_isRefusal_timeout
            (by simp [IsRefusal, Error.code, refusalCodes])
            (by simp [IsRefusal, Error.code, refusalCodes])) fun _ => avoids_pure _
    · exact refusedFirst_of_still (within_pure _)

theorem admitBy_refusedFirst (protocol : Protocol) :
    RefusedFirst IsRefusal (admitBy surroundings patience protocol request remote) := by
  cases protocol with
  | legacy =>
      refine refusedFirst_of_avoids ?_
      have answering : Avoids IsRefusal (do
          return ⟨none, nonempty? (etcdServers (← get).disk)⟩ : Activity Error Admitted) :=
        avoids_bind avoids_get fun _ => avoids_pure _
      unfold admitBy admitLegacy
      dsimp only
      split
      · exact answering
      · exact avoids_bind (avoids_adapt _ not_isRefusal_token) fun _ => answering
  | replicatedStore => exact admitToStore_refusedFirst surroundings patience request remote
  | etcdHa =>
      refine refusedFirst_hold patience fun _ => refusedFirst_check within_get fun world => ?_
      refine refusedFirst_of_still ?_
      dsimp only
      split
      · exact within_bind (within_throw _) fun _ => within_pure _
      · exact within_pure _

end Admitting

/-! ## Refused joins -/

section Refused

variable (surroundings : Surroundings) (patience : Patience) (protocol : Protocol)
  (request : Request)

/-- Past the token, a refusal comes before anything is done. -/
theorem grant_refusedFirst :
    RefusedFirst IsRefusal (grant surroundings patience protocol request) := by
  refine refusedFirst_check within_get fun world => refusedFirst_check (fun _ => rfl) fun remote =>
    refusedFirst_check (fun _ => rfl) fun override =>
      refusedFirst_bind (admitBy_refusedFirst surroundings patience request remote protocol)
        fun admitted => ?_
  refine complete_avoids not_isRefusal_token ?_ ?_ surroundings protocol request remote override
    admitted
  · intro cause
    simp [IsRefusal, Error.code, refusalCodes]
  · intro cause
    simp [IsRefusal, Error.code, refusalCodes]

/-- A refusal over the token, over the store that the node runs or of a node that called
itself. -/
def IsEarly : Error → Prop
  | .invalidToken => True
  | .backendMismatch _ _ => True
  | .selfJoin _ => True
  | _ => False

theorem check_ne_invalidToken (disk : Disk) :
    check protocol request disk ≠ .error .invalidToken := by
  intro failed
  unfold check at failed
  dsimp only at failed
  split at failed
  · cases failed
  · split at failed
    · cases failed
    · rw [remoteAddress] at failed
      split at failed
      · cases failed
      · split at failed <;> cases failed

theorem hostnameOverride_not_isEarly (resolve : String → Option (List IpAddress))
    (hostname : String) (remote : IpAddress) :
    ∀ error, hostnameOverride resolve hostname remote = .error error → ¬IsEarly error := by
  intro error failed early
  rw [hostnameOverride] at failed
  split at failed
  · cases failed
  · split at failed
    · cases failed
    · cases failed
    · split at failed
      · cases failed
      · cases failed
        exact early

theorem ofMembership_not_isEarly (cause : MembershipError) :
    ¬IsEarly (Error.ofMembership cause) := by
  cases cause <;> simp [Error.ofMembership, IsEarly]

theorem holdMembership_avoids : Avoids IsEarly (holdMembership patience) := by
  intro before error after ran early
  rw [holdMembership.eq_def] at ran
  split at ran
  · cases ran
    exact early
  · cases ran

/-- Nothing that stands in the way of an admission is one of the early refusals. -/
theorem admitBy_avoids (remote : IpAddress) :
    Avoids IsEarly (admitBy surroundings patience protocol request remote) := by
  cases protocol with
  | legacy =>
      unfold admitBy admitLegacy
      dsimp only
      split
      · exact avoids_bind avoids_get fun _ => avoids_pure _
      · exact avoids_bind (avoids_adapt _ (by simp [IsEarly])) fun _ =>
          avoids_bind avoids_get fun _ => avoids_pure _
  | replicatedStore =>
      unfold admitBy
      rw [admitToStore_eq]
      refine avoids_bind (holdMembership_avoids patience) fun _ =>
        avoids_bind (avoids_adapt _ ofMembership_not_isEarly) fun snapshot => ?_
      unfold admitAsSeen
      split
      · exact avoids_throw (by simp [IsEarly])
      · split
        · split
          · exact avoids_throw (by simp [IsEarly])
          · exact avoids_bind (avoids_adapt _ ofMembership_not_isEarly) fun _ =>
              avoids_bind (awaitMove_avoids surroundings patience (by simp [IsEarly])
                (by simp [IsEarly]) (by simp [IsEarly])) fun _ => avoids_pure _
        · exact avoids_pure _
  | etcdHa =>
      refine avoids_bind (holdMembership_avoids patience) fun _ =>
        avoids_bind avoids_get fun world => ?_
      dsimp only
      split
      · exact avoids_bind (avoids_throw (by simp [IsEarly])) fun _ => avoids_pure _
      · exact avoids_pure _

/-- Once the checks are passed, no failure is one of the early refusals. -/
theorem admission_avoids (remote : IpAddress) :
    Avoids IsEarly (do
      let override ←
        ExceptT.mk (pure (hostnameOverride surroundings.resolve request.hostname remote))
      let admitted ← admitBy surroundings patience protocol request remote
      complete surroundings protocol request remote override admitted) :=
  avoids_bind (avoids_mk (hostnameOverride_not_isEarly _ _ _)) fun override =>
    avoids_bind (admitBy_avoids surroundings patience protocol request remote) fun admitted =>
      complete_avoids (by simp [IsEarly]) (by simp [IsEarly]) (by simp [IsEarly]) surroundings
        protocol request remote override admitted

/-- Past the token, no failure says that the token is invalid. -/
theorem grant_avoids :
    Avoids (fun error => error = .invalidToken) (grant surroundings patience protocol request) := by
  refine avoids_bind avoids_get fun world => avoids_bind (avoids_mk ?_) fun remote => ?_
  · rintro error failed rfl
    exact check_ne_invalidToken protocol request _ failed
  · rintro before error after ran rfl
    exact admission_avoids surroundings patience protocol request remote before _ after ran trivial

/-- What a join may have done before it was refused: the first entry that admits its token is
gone from the list of cluster tokens, which is private now, and no temporary file stands beside
it. -/
structure SpendsOnly (token : String) (before after : World) : Prop where
  entries : Tokens.SpentFrom token before.seconds (Tokens.entriesIn .cluster before.disk)
    (Tokens.entriesIn .cluster after.disk)
  isPrivate : ∃ content,
    after.disk.fileAt? Layout.clusterTokens.names = some (content, true)
  temporary : after.disk.fileAt? Layout.clusterTokens.temporary = none
  otherFiles : ∀ names, names ∉ Tokens.footprint .cluster →
    after.disk.fileAt? names = before.disk.fileAt? names

/-- What no refused join touches. -/
def spared : List Place :=
  [Layout.addressUpdate, Layout.membership, Layout.callbackTokens, Layout.callbackToken,
    Layout.certificateRequestTokens, Layout.networkManifest, Layout.noReissueMarker]

/-- A join fails over its token, or later with a token that was accepted. -/
theorem error_of_join {before after : World} {error : Error}
    (ran : (join surroundings patience protocol request).run before = (.error error, after)) :
    (∃ cause, error = .token cause) ∨
      ∃ accepted spent,
        (Tokens.consume .cluster request.token before.seconds).run before.disk =
            (.ok accepted, spent) ∧
          (accepted = false ∧ error = .invalidToken ∧ after = { before with disk := spent } ∨
            accepted = true ∧
              (grant surroundings patience protocol request).run { before with disk := spent } =
                (.error error, after)) := by
  rw [join_eq] at ran
  rcases bind_error ran with failed | ⟨_, _, fetched, ran⟩
  · cases failed
  cases fetched
  rcases bind_error ran with failed | ⟨accepted, middle, consumed, ran⟩
  · obtain ⟨cause, _, rfl⟩ := adapt_error failed
    exact Or.inl ⟨cause, rfl⟩
  · obtain ⟨consumed, shape⟩ := onDisk_ran (adapt_ok consumed)
    rw [shape] at ran
    refine Or.inr ⟨accepted, middle.disk, consumed, ?_⟩
    cases accepted with
    | false =>
        cases ran
        exact Or.inl ⟨rfl, rfl, rfl⟩
    | true => exact Or.inr ⟨rfl, ran⟩

/-- A refused join got as far as its token, and no further. -/
theorem refused_join_cases {before after : World} {error : Error}
    (ran : (join surroundings patience protocol request).run before = (.error error, after))
    (refused : error.code = "invalid_token" ∨ IsRefusal error) :
    after = { before with disk := after.disk } ∧
      (error = .invalidToken ∧
          Disk.ChangesOnly [Layout.tokensLock.names] before.disk after.disk ∨
        IsRefusal error ∧ SpendsOnly request.token before after ∧
          Disk.ChangesOnly (Tokens.footprint .cluster) before.disk after.disk) := by
  rcases error_of_join surroundings patience protocol request ran with
    ⟨cause, rfl⟩ | ⟨accepted, spent, consumed, outcome⟩
  · rcases refused with invalid | isRefusal
    · simp [Error.code] at invalid
    · exact absurd isRefusal (not_isRefusal_token cause)
  · rcases outcome with ⟨rfl, rfl, rfl⟩ | ⟨rfl, failed⟩
    · rcases Tokens.consume_ok consumed with ⟨_, _, changes⟩ | ⟨impossible, _⟩
      · exact ⟨rfl, Or.inl ⟨rfl, changes⟩⟩
      · cases impossible
    · have valid := grant_avoids surroundings patience protocol request _ _ _ failed
      have isRefusal : IsRefusal error := by
        rcases refused with invalid | isRefusal
        · refine absurd ?_ valid
          cases error <;> simp_all [Error.code]
        · exact isRefusal
      obtain rfl :=
        grant_refusedFirst surroundings patience protocol request _ _ _ failed isRefusal
      rcases Tokens.consume_ok consumed with ⟨impossible, _, _⟩ | ⟨_, entries, isPrivate, gone⟩
      · cases impossible
      · have changes : Disk.ChangesOnly (Tokens.footprint .cluster) before.disk spent :=
          Tokens.consume_within.reaches consumed
        exact ⟨rfl, Or.inr ⟨isRefusal, ⟨entries, isPrivate, gone, fun _ => changes.fileAt?⟩,
          changes⟩⟩

theorem spared_apart :
    ∀ place ∈ spared, ∀ touched ∈ Tokens.footprint .cluster, ¬place.names <+: touched := by
  decide

/-- A join whose token is invalid changes no file but the lock. Any other join that is refused
has spent its token and done nothing else: no service was restarted and the cluster's API was
not called. Of the refusals `bootstrap_precondition` takes another party that acts while the join
runs: see `moving_refused_iff`. -/
theorem refused_join_spends_only {surroundings : Surroundings} {patience : Patience}
    {protocol : Protocol} {request : Request} {before after : World} {error : Error}
    (ran : (join surroundings patience protocol request).run before = (.error error, after)) :
    (error.code = "invalid_token" →
        after = { before with disk := after.disk } ∧
          ∀ names, names ≠ Layout.tokensLock.names →
            after.disk.fileAt? names = before.disk.fileAt? names) ∧
      (error.code ∈ refusalCodes →
        after = { before with disk := after.disk } ∧ SpendsOnly request.token before after) ∧
      (error.code ∈ "invalid_token" :: refusalCodes →
        after.calls = before.calls ∧
          ∀ place ∈ spared,
            after.disk.entryAt? place.names = before.disk.entryAt? place.names) := by
  have cases := refused_join_cases surroundings patience protocol request ran
  refine ⟨fun invalid => ?_, fun isRefusal => ?_, fun refused => ?_⟩
  · obtain ⟨shape, ⟨_, changes⟩ | ⟨isRefusal, _⟩⟩ := cases (Or.inl invalid)
    · exact ⟨shape, fun names different => changes.fileAt? (by simpa using different)⟩
    · rw [IsRefusal, invalid] at isRefusal
      simp [refusalCodes] at isRefusal
  · obtain ⟨shape, ⟨rfl, _⟩ | ⟨_, spends, _⟩⟩ := cases (Or.inr isRefusal)
    · simp [Error.code, refusalCodes] at isRefusal
    · exact ⟨shape, spends⟩
  · obtain ⟨shape, outcome⟩ := cases (List.mem_cons.mp refused)
    have changes : Disk.ChangesOnly (Tokens.footprint .cluster) before.disk after.disk := by
      rcases outcome with ⟨_, changes⟩ | ⟨_, _, changes⟩
      · exact changes.mono (by simp [Tokens.footprint])
      · exact changes
    refine ⟨by rw [shape], fun place member => ?_⟩
    exact changes.entryAt? (spared_apart place member)

end Refused

/-! ## Refusals that others bring about -/

section Others

variable {surroundings : Surroundings} {request : Request} {remote : IpAddress} {host : String}
  {looked still between after : World}

/-- A join that has found the store alone on loopback looks at it again before it moves it, and
others may have changed the store by then. The join is refused exactly where the store is not
alone on loopback any more, and it changes nothing. -/
theorem moving_refused_iff :
    (∃ error, IsRefusal error ∧
        (act surroundings request remote (.moving host)).run between = (.error error, after)) ↔
      after = between ∧ ∃ snapshot, Membership.membersOn between.disk = .ok snapshot ∧
        snapshot.isBootstrap = false := by
  constructor
  · rintro ⟨error, refused, ran⟩
    rw [run_moving] at ran
    rcases bound : (Membership.membersOn between.disk).bind (·.movedTo host) with cause | address
    · rw [bound] at ran
      cases ran
      obtain ⟨members, rfl⟩ := isRefusal_ofMembership refused
      refine ⟨rfl, ?_⟩
      rcases listed : Membership.membersOn between.disk with failure | snapshot
      · rw [listed] at bound
        cases bound
        exact absurd listed Membership.membersOn_ne_notBootstrap
      · rw [listed] at bound
        exact ⟨snapshot, rfl, Membership.other_of_movedTo bound⟩
    · rw [bound] at ran
      cases ran
  · rintro ⟨rfl, snapshot, listed, other⟩
    refine ⟨.notBootstrap snapshot.members.length, by simp [IsRefusal, Error.code, refusalCodes],
      ?_⟩
    rw [run_moving, listed]
    simp only [Except.bind, Membership.movedTo_of_other other]
    rfl

/-- Whoever is refused at the second look was let through at the first, so that the members have
changed in between, and not by this join. -/
theorem members_changed_of_moving_refused {error : Error}
    (first : (act surroundings request remote .looking).run looked = (.ok (.moving host), still))
    (second : (act surroundings request remote (.moving host)).run between =
      (.error error, after)) (refused : IsRefusal error) :
    still = looked ∧ after = between ∧
      Membership.membersOn between.disk ≠ Membership.membersOn looked.disk := by
  obtain rfl : looked = still := (act_still (Or.inl rfl)).reaches first
  obtain ⟨unchanged, snapshot, listed, other⟩ := moving_refused_iff.mp ⟨error, refused, second⟩
  refine ⟨rfl, unchanged, fun same => ?_⟩
  rw [listed] at same
  rcases act_looking_ok same.symm first with ⟨bootstrap, _⟩ | ⟨_, impossible⟩
  · rw [other] at bootstrap
    cases bootstrap
  · cases impossible

end Others

/-! ## A join over the wrong port -/

/-- A node on etcd with one cluster token and the rest of a write that was cut short. -/
def interrupted : World where
  disk :=
    { Disk.empty "/data" with
      entries :=
        [(["credentials"], .directory),
          (["credentials", "cluster-tokens.txt"], .file "abc\nother|9\n".toUTF8 false),
          (["credentials", "cluster-tokens.txt.tmp"], .file "ab".toUTF8 false)] }
  clock := 1000
  pending := []
  calls := []
  drawn := 0
  shutdownAt := none

def wrongPort : Request where
  token := "abc"
  hostname := ""
  port := 25001
  worker := true
  callbackToken := none
  contacted := "10.0.0.1:25000"
  remote := "10.0.0.2"

theorem wrongPort_refused :
    (join Rehearsal.quiet .endless .legacy wrongPort).run interrupted =
      (.error (.portMismatch 25000 25001),
        ((join Rehearsal.quiet .endless .legacy wrongPort).run interrupted).2) :=
  run_of_errorOf? (by decide +kernel)

theorem wrongPort_spends_only :
    SpendsOnly "abc" interrupted
      ((join Rehearsal.quiet .endless .legacy wrongPort).run interrupted).2 :=
  ((refused_join_spends_only wrongPort_refused).2.1 (by decide)).2

/-- The file beside the list of cluster tokens may go as well, although the join was refused. -/
theorem refused_join_may_clear_temporary :
    ¬∀ (surroundings : Surroundings) (patience : Patience) (protocol : Protocol)
        (request : Request) (before after : World) (error : Error),
      (join surroundings patience protocol request).run before = (.error error, after) →
        error.code ∈ refusalCodes →
          ∀ names, names ≠ Layout.clusterTokens.names → names ≠ Layout.tokensLock.names →
            after.disk.fileAt? names = before.disk.fileAt? names := by
  intro unchanged
  have same := unchanged Rehearsal.quiet .endless .legacy wrongPort interrupted _ _
    wrongPort_refused (by decide) Layout.clusterTokens.temporary (by decide) (by decide)
  have gone : (((join Rehearsal.quiet .endless .legacy wrongPort).run interrupted).2.disk.fileAt?
      Layout.clusterTokens.temporary).isSome = false := by
    decide +kernel
  rw [same] at gone
  revert gone
  decide +kernel

end Join
end ClusterAgent
