import Mathlib.Logic.Relation
import ClusterAgent.Proofs.Join.Contest
import ClusterAgent.Rehearsal.Storage
namespace ClusterAgent
namespace Join

open Running World ClusterAgent.Membership

/-! ## Phases of a contest -/

/-- How far a store has come that stood alone on loopback. -/
inductive Phase
  | untouched
  | told
  | restarted
  | stayed
  | moved
  deriving DecidableEq, Repr

namespace Phase

def timesTold : Phase → Nat
  | .untouched => 0
  | _ => 1

def restarts : Phase → Nat
  | .untouched => 0
  | .told => 0
  | _ => 1

def owed : Phase → Nat
  | .restarted => 1
  | _ => 0

/-- The stages that the join with the membership may have. -/
def allows : Phase → Stage → Bool
  | .untouched, .looking => true
  | .untouched, .moving _ => true
  | .untouched, .telling _ => true
  | .told, .restarting => true
  | .restarted, .polling => true
  | .stayed, .polling => true
  | .moved, .looking => true
  | .moved, .polling => true
  | .moved, .leaving _ => true
  | _, _ => false

/-- Whether the membership cannot be free. -/
def isHeld : Phase → Bool
  | .untouched => false
  | .moved => false
  | _ => true

/-- What the store lists. -/
def Describes : Phase → Snapshot → Prop
  | .moved, snapshot => snapshot.hasMoved = true
  | _, snapshot => snapshot.isBootstrap = true

theorem allows_looking {phase : Phase} (notHeld : phase.isHeld = false) :
    phase.allows .looking = true := by
  cases phase with
  | untouched | moved => rfl
  | _ => cases notHeld

/-- Only a join that has told the store its address and not seen it move has to go on. -/
theorem isHeld_of_allows {phase : Phase} {stage : Stage} (allowed : phase.allows stage = true)
    (notRestarting : stage ≠ .restarting) (notPolling : stage ≠ .polling) :
    phase.isHeld = false := by
  cases phase with
  | untouched | moved => rfl
  | told =>
      cases stage with
      | restarting => exact absurd rfl notRestarting
      | _ => cases allowed
  | restarted | stayed =>
      cases stage with
      | polling => exact absurd rfl notPolling
      | _ => cases allowed

theorem eq_polling_of_allows {stage : Stage} (allowed : Phase.restarted.allows stage = true) :
    stage = .polling := by
  cases stage with
  | polling => rfl
  | _ => cases allowed

end Phase

/-- Whether a join does not hold the membership at this stage. -/
def Stage.isIdle : Stage → Bool
  | .outside => true
  | .admitted _ => true
  | .refused _ => true
  | _ => false

/-- The snapshot with which a join at this stage has been admitted. -/
def Stage.accepted? : Stage → Option Snapshot
  | .leaving snapshot => some snapshot
  | .admitted snapshot => some snapshot
  | _ => none

/-- What holds in a phase, where a contest had begun with `start`. -/
structure InPhase {Joiner : Type} (service : String) (start : World) (phase : Phase)
    (state : Contest Joiner) : Prop where
  listed : ∃ snapshot, membersOn state.world.disk = .ok snapshot ∧ phase.Describes snapshot
  told : timesTold state.world.disk = timesTold start.disk + phase.timesTold
  restarts : restarts service state.world = restarts service start + phase.restarts
  owed : state.owed = phase.owed
  holder : ∀ joiner, state.holder = some joiner → phase.allows (state.stage joiner) = true
  held : phase.isHeld = true → state.holder ≠ none
  others : ∀ joiner, state.holder ≠ some joiner → (state.stage joiner).isIdle = true
  accepted : ∀ joiner snapshot, (state.stage joiner).accepted? = some snapshot →
    snapshot.isBootstrap = false

/-! ## Stages in which a join only reads -/

/-- A join that has only read comes to a stage of the same phase. -/
structure ReadsOn (phase : Phase) (before after : World) (next : Stage) : Prop where
  still : after = before
  allowed : phase.allows next = true
  accepted : ∀ snapshot, next.accepted? = some snapshot → snapshot.isBootstrap = false

section Reading

variable {surroundings : Surroundings} {request : Request} {remote : IpAddress} {phase : Phase}
  {before after : World} {next : Stage} {snapshot : Snapshot}

/-- A join that looks at a store on loopback will move it, and any other it finds moved. -/
theorem readsOn_looking (allowed : phase.allows .looking = true)
    (listed : membersOn before.disk = .ok snapshot) (describes : phase.Describes snapshot)
    (ran : (act surroundings request remote .looking).run before = (.ok next, after)) :
    ReadsOn phase before after next := by
  have still := ((act_still (Or.inl rfl)).reaches ran).symm
  rcases act_looking_ok listed ran with ⟨bootstrap, host, rfl⟩ | ⟨notBootstrap, rfl⟩
  · refine ⟨still, ?_, fun snapshot accepted => by cases accepted⟩
    cases phase with
    | untouched => rfl
    | moved =>
        have moved : snapshot.hasMoved = true := describes
        rw [hasMoved_of_isBootstrap bootstrap] at moved
        cases moved
    | _ => cases allowed
  · refine ⟨still, ?_, ?_⟩
    · cases phase with
      | untouched =>
          have bootstrap : snapshot.isBootstrap = true := describes
          rw [notBootstrap] at bootstrap
          cases bootstrap
      | moved => rfl
      | _ => cases allowed
    · rintro other ⟨⟩
      exact notBootstrap

theorem readsOn_moving {host : String} (allowed : phase.allows (.moving host) = true)
    (ran : (act surroundings request remote (.moving host)).run before = (.ok next, after)) :
    ReadsOn phase before after next := by
  have still := ((act_still (Or.inr ⟨host, rfl⟩)).reaches ran).symm
  obtain ⟨address, rfl⟩ := act_moving_ok ran
  refine ⟨still, ?_, fun snapshot accepted => by cases accepted⟩
  cases phase <;> first | rfl | cases allowed

/-- A poll finds the store moved in the last phase only. -/
theorem readsOn_polling (allowed : phase.allows .polling = true)
    (listed : membersOn before.disk = .ok snapshot) (describes : phase.Describes snapshot)
    (ran : (act surroundings request remote .polling).run before = (.ok next, after)) :
    ReadsOn phase before after next := by
  rw [run_polling, listed] at ran
  cases ran
  cases moved : snapshot.hasMoved with
  | false => exact ⟨rfl, allowed, fun snapshot accepted => by cases accepted⟩
  | true =>
      refine ⟨rfl, ?_, ?_⟩
      · cases phase with
        | untouched | told => cases allowed
        | restarted | stayed =>
            have bootstrap : snapshot.isBootstrap = true := describes
            rw [isBootstrap_of_hasMoved moved] at bootstrap
            cases bootstrap
        | moved => rfl
      · rintro other ⟨⟩
        exact isBootstrap_of_hasMoved moved

end Reading

namespace InPhase

variable {Joiner : Type} {service : String} {start : World} {phase : Phase}
  {state : Contest Joiner}

/-- Steps of others leave every join at its stage. -/
theorem around (inPhase : InPhase service start phase state) {later : Phase} {after : World}
    {owed : Nat}
    (listed : ∃ snapshot, membersOn after.disk = .ok snapshot ∧ later.Describes snapshot)
    (told : timesTold after.disk = timesTold start.disk + later.timesTold)
    (restarted : Join.restarts service after = Join.restarts service start + later.restarts)
    (owes : owed = later.owed)
    (stages : ∀ stage, phase.allows stage = true → later.allows stage = true)
    (held : later.isHeld = true → phase.isHeld = true) :
    InPhase service start later { state with world := after, owed := owed } :=
  ⟨listed, told, restarted, owes,
    fun joiner holds => stages _ (inPhase.holder joiner holds),
    fun isHeld => inPhase.held (held isHeld), inPhase.others, inPhase.accepted⟩

/-- A store that owes a listing has been restarted, and lists itself where it was told to. -/
theorem adopt {content : ByteArray} {address : String} {id : Nat}
    (inPhase : InPhase service start phase state) (owes : 0 < state.owed)
    (alone : IsListing content ⟨[⟨address, id, .voter⟩]⟩) :
    ∃ later, InPhase service start later
      { state with
        world := withListing state.world content
        owed := state.owed - 1 } := by
  obtain ⟨snapshot, listed, _⟩ := inPhase.listed
  have lists := membersOn_withListing listed alone
  have told := (timesTold_withListing state.world content).trans inPhase.told
  rw [inPhase.owed] at owes ⊢
  cases phase with
  | restarted =>
      -- The store may be told an address on loopback, and then the join polls on.
      rcases isBootstrap_or_hasMoved ⟨address, id, .voter⟩ with bootstrap | moved
      · refine ⟨.stayed, inPhase.around ⟨_, lists, bootstrap⟩ told inPhase.restarts rfl ?_
          fun _ => rfl⟩
        intro stage allowed
        rw [Phase.eq_polling_of_allows allowed]
        rfl
      · refine ⟨.moved, inPhase.around ⟨_, lists, moved⟩ told inPhase.restarts rfl ?_
          fun _ => rfl⟩
        intro stage allowed
        rw [Phase.eq_polling_of_allows allowed]
        rfl
  | _ => exact absurd owes (Nat.lt_irrefl 0)

theorem append {content : ByteArray} {members fresh : List Member}
    (inPhase : InPhase service start phase state)
    (listed : membersOn state.world.disk = .ok ⟨members⟩)
    (moved : Snapshot.hasMoved ⟨members⟩ = true)
    (longer : IsListing content ⟨members ++ fresh⟩) :
    InPhase service start phase
      { state with world := withListing state.world content } := by
  obtain ⟨snapshot, seen, describes⟩ := inPhase.listed
  obtain rfl : snapshot = ⟨members⟩ := Except.ok.inj (seen.symm.trans listed)
  have describesLonger : phase.Describes ⟨members ++ fresh⟩ := by
    cases phase with
    | moved =>
        cases members with
        | nil => cases moved
        | cons first rest => exact moved
    | _ =>
        have bootstrap : Snapshot.isBootstrap ⟨members⟩ = true := describes
        rw [isBootstrap_of_hasMoved moved] at bootstrap
        cases bootstrap
  exact inPhase.around ⟨_, membersOn_withListing listed longer, describesLonger⟩
    ((timesTold_withListing state.world content).trans inPhase.told) inPhase.restarts inPhase.owed
    (fun _ allowed => allowed) id

variable [DecidableEq Joiner] {joiner : Joiner} {next : Stage}

theorem accepted_update (inPhase : InPhase service start phase state)
    (sound : ∀ snapshot, next.accepted? = some snapshot → snapshot.isBootstrap = false)
    (other : Joiner) (snapshot : Snapshot)
    (accepted : (Function.update state.stage joiner next other).accepted? = some snapshot) :
    snapshot.isBootstrap = false := by
  by_cases same : other = joiner
  · subst same
    rw [Function.update_self] at accepted
    exact sound snapshot accepted
  · rw [Function.update_of_ne same] at accepted
    exact inPhase.accepted other snapshot accepted

theorem goOn (inPhase : InPhase service start phase state) (held : state.holder = some joiner)
    {later : Phase} {after : World} {owed : Nat}
    (listed : ∃ snapshot, membersOn after.disk = .ok snapshot ∧ later.Describes snapshot)
    (told : timesTold after.disk = timesTold start.disk + later.timesTold)
    (restarted : Join.restarts service after = Join.restarts service start + later.restarts)
    (owes : owed = later.owed) (allowed : later.allows next = true)
    (sound : ∀ snapshot, next.accepted? = some snapshot → snapshot.isBootstrap = false) :
    InPhase service start later
      { state with
        world := after
        stage := Function.update state.stage joiner next
        owed := owed } := by
  refine ⟨listed, told, restarted, owes, ?_, ?_, ?_, inPhase.accepted_update sound⟩
  · intro other holds
    obtain rfl : joiner = other := Option.some.inj (held.symm.trans holds)
    dsimp only
    rw [Function.update_self]
    exact allowed
  · intro _ free
    cases held.symm.trans free
  · intro other idle
    have different : other ≠ joiner := by
      rintro rfl
      exact idle held
    dsimp only
    rw [Function.update_of_ne different]
    exact inPhase.others other idle

theorem giveUp (inPhase : InPhase service start phase state) (held : state.holder = some joiner)
    (notHeld : phase.isHeld = false) (idle : next.isIdle = true)
    (sound : ∀ snapshot, next.accepted? = some snapshot → snapshot.isBootstrap = false) :
    InPhase service start phase
      { state with
        holder := none
        stage := Function.update state.stage joiner next } := by
  refine ⟨inPhase.listed, inPhase.told, inPhase.restarts, inPhase.owed, ?_, ?_, ?_,
    inPhase.accepted_update sound⟩
  · intro other holds
    cases holds
  · intro isHeld
    rw [notHeld] at isHeld
    cases isHeld
  · intro other _
    dsimp only
    by_cases same : other = joiner
    · subst same
      rw [Function.update_self]
      exact idle
    · rw [Function.update_of_ne same]
      refine inPhase.others other fun holds => same ?_
      exact Option.some.inj (holds.symm.trans held)

end InPhase

theorem inPhase_of_begins {Joiner : Type} {state : Contest Joiner} (service : String)
    (begins : Begins state) : InPhase service state.world .untouched state := by
  obtain ⟨member, listed, loopback⟩ := begins.alone
  refine ⟨⟨_, listed, loopback⟩, rfl, rfl, begins.owesNothing, ?_, ?_, ?_, ?_⟩
  · intro joiner holds
    rw [begins.free] at holds
    cases holds
  · intro isHeld
    cases isHeld
  · intro joiner _
    rw [begins.outside joiner]
    rfl
  · intro joiner snapshot accepted
    rw [begins.outside joiner] at accepted
    cases accepted

/-! ## Steps and phases -/

section Preserving

variable {Joiner : Type} [DecidableEq Joiner] {surroundings : Surroundings}
  {request : Joiner → Request} {remote : Joiner → IpAddress} {start : World} {phase : Phase}
  {state : Contest Joiner} {joiner : Joiner} {next : Stage} {after : World}

theorem inPhase_acquire (inPhase : InPhase surroundings.storageService start phase state)
    (free : state.holder = none) :
    InPhase surroundings.storageService start phase
      { state with
        holder := some joiner
        stage := Function.update state.stage joiner .looking } := by
  have allowed : phase.allows .looking = true := by
    have notHeld := mt inPhase.held (not_not_intro free)
    exact Phase.allows_looking (Bool.eq_false_iff.mpr notHeld)
  refine ⟨inPhase.listed, inPhase.told, inPhase.restarts, inPhase.owed, ?_, ?_, ?_,
    inPhase.accepted_update fun snapshot accepted => by cases accepted⟩
  · intro other holds
    obtain rfl : joiner = other := Option.some.inj holds
    dsimp only
    rw [Function.update_self]
    exact allowed
  · intro _ none
    cases none
  · intro other idle
    have different : other ≠ joiner := fun same => idle (congrArg some same.symm)
    dsimp only
    rw [Function.update_of_ne different]
    exact inPhase.others other (by rw [free]; simp)

theorem inPhase_telling {address : String}
    (inPhase : InPhase surroundings.storageService start .untouched state)
    (held : state.holder = some joiner)
    (ran : (act surroundings (request joiner) (remote joiner) (.telling address)).run
      state.world = (.ok next, after)) :
    InPhase surroundings.storageService start .told
      { state with
        world := after
        stage := Function.update state.stage joiner next } := by
  obtain ⟨rfl, wrote, shape⟩ := act_telling_ok ran
  obtain ⟨snapshot, listed, describes⟩ := inPhase.listed
  refine inPhase.goOn held ⟨snapshot, membersOn_of_writeUpdate listed wrote, describes⟩ ?_ ?_
    inPhase.owed rfl fun snapshot accepted => by cases accepted
  · rw [timesTold_writeUpdate wrote, inPhase.told]
    rfl
  · rw [shape]
    exact inPhase.restarts

theorem inPhase_restarting
    (quiet : Within (Undisturbed surroundings.storageService)
      (surroundings.restart surroundings.storageService))
    (inPhase : InPhase surroundings.storageService start .told state)
    (held : state.holder = some joiner)
    (ran : (act surroundings (request joiner) (remote joiner) .restarting).run
      state.world = (.ok next, after)) :
    InPhase surroundings.storageService start .restarted
      { state with
        world := after
        stage := Function.update state.stage joiner next
        owed := state.owed + 1 } := by
  obtain ⟨rfl, restarted⟩ := act_restarting_ok ran
  obtain ⟨members, told, count⟩ := undisturbed_of_restartService quiet restarted
  obtain ⟨snapshot, listed, describes⟩ := inPhase.listed
  refine inPhase.goOn held ⟨snapshot, members.trans listed, describes⟩ (told.trans inPhase.told)
    ?_ ?_ rfl fun snapshot accepted => by cases accepted
  · rw [count, inPhase.restarts]
    rfl
  · rw [inPhase.owed]
    rfl

/-- A join that acts takes the contest on by a phase at most. -/
theorem inPhase_advance
    (quiet : Within (Undisturbed surroundings.storageService)
      (surroundings.restart surroundings.storageService))
    (inPhase : InPhase surroundings.storageService start phase state)
    (held : state.holder = some joiner)
    (ran : (act surroundings (request joiner) (remote joiner) (state.stage joiner)).run
      state.world = (.ok next, after)) :
    ∃ later, InPhase surroundings.storageService start later
      { state with
        world := after
        stage := Function.update state.stage joiner next
        owed := state.owed + if state.stage joiner = .restarting then 1 else 0 } := by
  have allowed := inPhase.holder joiner held
  have accepted := inPhase.accepted joiner
  obtain ⟨snapshot, listed, describes⟩ := inPhase.listed
  have reading (readsOn : ReadsOn phase state.world after next) :
      ∃ later, InPhase surroundings.storageService start later
        { state with world := after, stage := Function.update state.stage joiner next } := by
    obtain ⟨rfl, allowed, accepted⟩ := readsOn
    exact ⟨phase, inPhase.goOn held inPhase.listed inPhase.told inPhase.restarts inPhase.owed
      allowed accepted⟩
  -- Only telling and restarting write, and each has one phase in which it can come.
  generalize state.stage joiner = stage at ran allowed accepted ⊢
  cases stage with
  | looking => exact reading (readsOn_looking allowed listed describes ran)
  | moving host => exact reading (readsOn_moving allowed ran)
  | telling address =>
      cases phase with
      | untouched => exact ⟨.told, inPhase_telling inPhase held ran⟩
      | _ => cases allowed
  | restarting =>
      cases phase with
      | told => exact ⟨.restarted, inPhase_restarting quiet inPhase held ran⟩
      | _ => cases allowed
  | polling => exact reading (readsOn_polling allowed listed describes ran)
  | leaving admitted =>
      cases ran
      exact reading ⟨rfl, allowed, accepted⟩
  | _ => cases phase <;> cases allowed

/-- Every step leaves a contest in one of the phases. -/
theorem inPhase_step
    (quiet : Within (Undisturbed surroundings.storageService)
      (surroundings.restart surroundings.storageService))
    {later : Contest Joiner} (step : Step surroundings request remote state later)
    (inPhase : InPhase surroundings.storageService start phase state) :
    ∃ laterPhase, InPhase surroundings.storageService start laterPhase later := by
  cases step with
  | acquire free outside => exact ⟨phase, inPhase_acquire inPhase free⟩
  | advance held ran => exact inPhase_advance quiet inPhase held ran
  | @refuse joiner error after held onlyRead ran =>
      obtain rfl := (act_still onlyRead).reaches ran
      -- A join that has only read has begun no move, so the membership may be free again.
      have notHeld : phase.isHeld = false := by
        have allowed := inPhase.holder joiner held
        rcases onlyRead with looking | ⟨host, moving⟩
        · exact Phase.isHeld_of_allows allowed (by simp [looking]) (by simp [looking])
        · exact Phase.isHeld_of_allows allowed (by simp [moving]) (by simp [moving])
      exact ⟨phase, inPhase.giveUp held notHeld rfl fun snapshot accepted => by cases accepted⟩
  | @release joiner snapshot held leaving =>
      have notHeld : phase.isHeld = false :=
        Phase.isHeld_of_allows (inPhase.holder joiner held) (by simp [leaving]) (by simp [leaving])
      refine ⟨phase, inPhase.giveUp held notHeld rfl ?_⟩
      rintro other ⟨⟩
      exact inPhase.accepted joiner snapshot (by rw [leaving]; rfl)
  | adopt owes told alone => exact inPhase.adopt owes alone
  | append owesNothing listed moved offLoopback longer =>
      exact ⟨phase, inPhase.append listed moved longer⟩
  | meanwhile undisturbed =>
      obtain ⟨snapshot, listed, describes⟩ := inPhase.listed
      exact ⟨phase, inPhase.around ⟨snapshot, undisturbed.members.trans listed, describes⟩
        (undisturbed.timesTold.trans inPhase.told) (undisturbed.restarts.trans inPhase.restarts)
        inPhase.owed (fun _ allowed => allowed) id⟩

theorem inPhase_of_run
    (quiet : Within (Undisturbed surroundings.storageService)
      (surroundings.restart surroundings.storageService))
    {first last : Contest Joiner} (begins : Begins first)
    (run : Relation.ReflTransGen (Step surroundings request remote) first last) :
    ∃ phase, InPhase surroundings.storageService first.world phase last := by
  induction run with
  | refl => exact ⟨.untouched, inPhase_of_begins _ begins⟩
  | tail _ step inductionHypothesis =>
      obtain ⟨phase, inPhase⟩ := inductionHypothesis
      exact inPhase_step quiet step inPhase

/-- However many joins compete and however their steps and those of the store come one after
another: a store that stood alone on loopback is told its address at most once and restarted at
most once, and no join is admitted while it still stands alone there. -/
theorem bootstrap_moves_once
    (quiet : Within (Undisturbed surroundings.storageService)
      (surroundings.restart surroundings.storageService))
    {first last : Contest Joiner} (begins : Begins first)
    (run : Relation.ReflTransGen (Step surroundings request remote) first last) :
    timesTold last.world.disk ≤ timesTold first.world.disk + 1 ∧
      restarts surroundings.storageService last.world ≤
          restarts surroundings.storageService first.world + 1 ∧
        ∀ joiner snapshot, last.stage joiner = .admitted snapshot →
          snapshot.isBootstrap = false := by
  obtain ⟨phase, inPhase⟩ := inPhase_of_run quiet begins run
  refine ⟨?_, ?_, ?_⟩
  · rw [inPhase.told]
    cases phase <;> simp [Phase.timesTold]
  · rw [inPhase.restarts]
    cases phase <;> simp [Phase.restarts]
  · intro joiner snapshot admitted
    exact inPhase.accepted joiner snapshot (by rw [admitted]; rfl)

end Preserving

/-! ## A contest of two joins -/

def movedListing : String :=
  "- Address: 10.0.0.1:19001\n  ID: 1\n  Role: 0\n"

def movedSnapshot : Snapshot :=
  ⟨[⟨"10.0.0.1:19001", 1, .voter⟩]⟩

/-- What other processes will write can be compared, octet by octet. -/
instance : DecidableEq Delivery := fun left right =>
  decidable_of_iff
    (left.due = right.due ∧ left.names = right.names ∧
      left.content.data.toList = right.content.data.toList) <| by
    rcases left with ⟨leftDue, leftNames, ⟨⟨leftOctets⟩⟩⟩
    rcases right with ⟨rightDue, rightNames, ⟨⟨rightOctets⟩⟩⟩
    simp

/-- The store lists itself off loopback some time from now. -/
def scheduleListing (world : World) : World :=
  { world with
    pending := world.pending ++
      [⟨world.clock + 5, Layout.membership.names, movedListing.toUTF8⟩] }

/-- Surroundings in which systemd restarts the services, and the store moves some time after. -/
def supervised : Surroundings :=
  { Rehearsal.quiet with
    restart := fun service => do
      Supervisor.restart (.systemd "snap.") (fun name =>
        if name = "systemctl" then .ok ⟨.status 0, .empty, .empty⟩ else .error .notFound) service
      modify scheduleListing }

theorem supervised_quiet : Within (Undisturbed supervised.storageService)
    (supervised.restart supervised.storageService) :=
  within_bind (supervisor_undisturbed _ _ _ _) fun _ =>
    within_modify fun _ => ⟨rfl, rfl, rfl, rfl⟩

def contender (joiner : Fin 2) : Request where
  token := "abc"
  hostname := ""
  port := 25000
  worker := false
  callbackToken := none
  contacted := "10.0.0.1:25000"
  remote := if joiner = 0 then "10.0.0.2" else "10.0.0.3"

def contenderAddress (joiner : Fin 2) : IpAddress :=
  .v4 (if joiner = 0 then 0x0A000002 else 0x0A000003)

def loneStore : World where
  disk :=
    { Disk.empty "/data" with
      entries :=
        [(["var"], .directory), (["var", "kubernetes"], .directory),
          (["var", "kubernetes", "backend"], .directory),
          (Layout.membership.names,
            .file "- Address: 127.0.0.1:19001\n  ID: 1\n  Role: 0\n".toUTF8 false)] }
  clock := 1000
  pending := []
  calls := []
  drawn := 0
  shutdownAt := none

def opening : Contest (Fin 2) :=
  ⟨loneStore, none, fun _ => .outside, 0⟩

theorem opening_begins : Begins opening := by
  refine ⟨rfl, fun _ => rfl, rfl, ⟨"127.0.0.1:19001", 1, .voter⟩, ?_, by decide +kernel⟩
  exact congrArg Prod.fst (run_of_toOption (by decide +kernel))

/-- The world in which a contender waits, or leaves without a wait. -/
def approached (joiner : Fin 2) (world : World) : World :=
  ((approach supervised (contender joiner) (contenderAddress joiner) .endless).run world).2

theorem eq_approached {joiner : Fin 2} {world waiting : World} {last : Stage}
    (ran : (approach supervised (contender joiner) (contenderAddress joiner) .endless).run world =
      (.ok last, waiting)) : waiting = approached joiner world := by
  rw [approached, ran]

/-- The world in which a contender has been admitted. -/
def admittedIn (joiner : Fin 2) (world : World) : World :=
  ((admitToStore supervised .endless (contender joiner) (contenderAddress joiner)).run world).2

def movedVoters : Admitted :=
  ⟨some movedSnapshot.voters, none⟩

/-- While the first contender waits, the store moves to the address that it was told. -/
theorem store_moves {time : Nat}
    (settled : (approached 0 opening.world).settle time = admittedIn 0 opening.world) :
    Relation.ReflTransGen (Step supervised contender contenderAddress)
      (opening.going 0 (approached 0 opening.world) (some 0) .polling 1)
      (opening.going 0 (admittedIn 0 opening.world) (some 0) .polling 0) := by
  have listing : IsListing movedListing.toUTF8 movedSnapshot :=
    ⟨movedListing, Utf8.decode_toUTF8 _, by decide +kernel⟩
  obtain ⟨pending, told⟩ :
      (approached 0 opening.world).pending =
          [⟨1005, Layout.membership.names, movedListing.toUTF8⟩] ∧
        toldAddress? (approached 0 opening.world).disk = some "10.0.0.1:19001" := by
    decide +kernel
  have passed : 1005 ≤ time := by
    have sameTime : time = (admittedIn 0 opening.world).clock := congrArg World.clock settled
    rw [sameTime]
    decide +kernel
  rw [← settled]
  exact run_of_settle pending passed told listing

theorem exists_firstAdmitted : ∃ owed,
    Relation.ReflTransGen (Step supervised contender contenderAddress) opening
      (opening.going 0 (admittedIn 0 opening.world) none (.admitted movedSnapshot) owed) := by
  obtain ⟨answered, moved⟩ :
      ((admitToStore supervised .endless (contender 0) (contenderAddress 0)).run
          opening.world).1.toOption = some movedVoters ∧
        (membersOn (admittedIn 0 opening.world).disk).toOption = some movedSnapshot := by
    decide +kernel
  have admits : (admitToStore supervised .endless (contender 0) (contenderAddress 0)).run
      opening.world = (.ok movedVoters, admittedIn 0 opening.world) := run_of_toOption answered
  obtain ⟨snapshot, owed, listed, _, run⟩ := run_of_admitToStore rfl rfl admits
    fun waiting time ran settled => by
      rw [eq_approached ran] at settled ⊢
      exact ⟨0, store_moves settled⟩
  rw [listed] at moved
  obtain rfl : snapshot = movedSnapshot := Option.some.inj moved
  exact ⟨owed, run⟩

/-- The second contender finds the store where it moved to, and does not wait. -/
theorem exists_bothAdmitted : ∃ closing : Contest (Fin 2),
    Relation.ReflTransGen (Step supervised contender contenderAddress) opening closing ∧
      closing.stage 0 = .admitted movedSnapshot ∧ closing.stage 1 = .admitted movedSnapshot := by
  obtain ⟨answered, left, moved⟩ :
      ((admitToStore supervised .endless (contender 1) (contenderAddress 1)).run
          (admittedIn 0 opening.world)).1.toOption = some movedVoters ∧
        ((approach supervised (contender 1) (contenderAddress 1) .endless).run
            (admittedIn 0 opening.world)).1.toOption = some (.leaving movedSnapshot) ∧
          (membersOn (admittedIn 1 (admittedIn 0 opening.world)).disk).toOption =
            some movedSnapshot := by
    decide +kernel
  obtain ⟨owed, first⟩ := exists_firstAdmitted
  have outside : (opening.going 0 (admittedIn 0 opening.world) none (.admitted movedSnapshot)
      owed).stage 1 = .outside := Contest.stage_going_of_ne (by decide) ..
  have admits : (admitToStore supervised .endless (contender 1) (contenderAddress 1)).run
      (opening.going 0 (admittedIn 0 opening.world) none (.admitted movedSnapshot) owed).world =
        (.ok movedVoters, admittedIn 1 (admittedIn 0 opening.world)) := by
    rw [Contest.world_going]
    exact run_of_toOption answered
  have leaves : (approach supervised (contender 1) (contenderAddress 1) .endless).run
      (opening.going 0 (admittedIn 0 opening.world) none (.admitted movedSnapshot) owed).world =
        (.ok (.leaving movedSnapshot), approached 1 (admittedIn 0 opening.world)) := by
    rw [Contest.world_going]
    exact run_of_toOption left
  obtain ⟨snapshot, later, listed, _, second⟩ := run_of_admitToStore rfl outside admits
    fun waiting time ran settled => by cases leaves.symm.trans ran
  rw [listed] at moved
  obtain rfl : snapshot = movedSnapshot := Option.some.inj moved
  refine ⟨_, first.trans second, ?_, Contest.stage_going ..⟩
  exact (Contest.stage_going_of_ne (by decide) ..).trans (Contest.stage_going ..)

/-- Both joins are admitted, and the store has moved once. -/
theorem closing_moved_once : ∃ closing : Contest (Fin 2),
    (closing.stage 0 = .admitted movedSnapshot ∧ closing.stage 1 = .admitted movedSnapshot) ∧
      timesTold closing.world.disk ≤ timesTold opening.world.disk + 1 ∧
        restarts supervised.storageService closing.world ≤
            restarts supervised.storageService opening.world + 1 ∧
          ∀ joiner snapshot, closing.stage joiner = .admitted snapshot →
            snapshot.isBootstrap = false := by
  obtain ⟨closing, run, admitted⟩ := exists_bothAdmitted
  exact ⟨closing, admitted, bootstrap_moves_once supervised_quiet opening_begins run⟩

end Join
end ClusterAgent
