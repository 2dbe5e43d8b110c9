import Mathlib.Logic.Function.Basic
import Mathlib.Logic.Relation
import ClusterAgent.Proofs.Join.Stages
import ClusterAgent.Proofs.Sparing
import ClusterAgent.Services.Supervisor
namespace ClusterAgent
namespace Join

open Running World ClusterAgent.Membership

/-! ## Joins that compete for the membership -/

/-- A node that many joins have called: its world, the join that holds the membership, the
stage of each join, and the number of restarts after which the store has not yet written down
its members. -/
structure Contest (Joiner : Type) where
  world : World
  holder : Option Joiner
  stage : Joiner → Stage
  owed : Nat

/-- The contest after one join has gone to a stage. -/
def Contest.going {Joiner : Type} [DecidableEq Joiner] (state : Contest Joiner) (joiner : Joiner)
    (world : World) (holder : Option Joiner) (stage : Stage) (owed : Nat) : Contest Joiner :=
  ⟨world, holder, Function.update state.stage joiner stage, owed⟩

/-- The content of a file in which the store lists these members. -/
def IsListing (content : ByteArray) (snapshot : Snapshot) : Prop :=
  ∃ text, Utf8.decode content = .ok text ∧ Snapshot.ofText? text.toList = some snapshot

/-- The address that the store was told last. -/
def toldAddress? (disk : Disk) : Option String := do
  let content ← disk.content? Layout.addressUpdate.names
  let text ← (Utf8.decode content).toOption
  updateAddress? text.toList

/-- The world after the store has written down its members. -/
def withListing (world : World) (content : ByteArray) : World :=
  { world with disk := deliver world.disk ⟨world.clock, Layout.membership.names, content⟩ }

def restarts (service : String) (world : World) : Nat :=
  world.calls.count (.restart service)

/-- Between the two worlds the store wrote nothing, was told nothing and was not restarted. -/
structure Undisturbed (service : String) (before after : World) : Prop where
  members : membersOn after.disk = membersOn before.disk
  told : after.disk.fileAt? Layout.addressUpdate.names =
    before.disk.fileAt? Layout.addressUpdate.names
  timesTold : timesTold after.disk = timesTold before.disk
  restarts : restarts service after = restarts service before

section Stepping

variable {Joiner : Type} [DecidableEq Joiner] (surroundings : Surroundings)
  (request : Joiner → Request) (remote : Joiner → IpAddress)

/-- One step of one join, of the store or of anything else. A join acts while it holds the
membership, and may be refused as long as it has only read. The store lists itself as a lone
voter under the address that it was told, once after each restart; else it only adds members
off loopback, when it is there itself and owes nothing. -/
inductive Step : Contest Joiner → Contest Joiner → Prop
  | acquire {state : Contest Joiner} {joiner : Joiner} (free : state.holder = none)
      (outside : state.stage joiner = .outside) :
      Step state
        { state with
          holder := some joiner
          stage := Function.update state.stage joiner .looking }
  | advance {state : Contest Joiner} {joiner : Joiner} {next : Stage} {after : World}
      (held : state.holder = some joiner)
      (ran : (act surroundings (request joiner) (remote joiner) (state.stage joiner)).run
        state.world = (.ok next, after)) :
      Step state
        { state with
          world := after
          stage := Function.update state.stage joiner next
          owed := state.owed + if state.stage joiner = .restarting then 1 else 0 }
  | refuse {state : Contest Joiner} {joiner : Joiner} {error : Error} {after : World}
      (held : state.holder = some joiner)
      (onlyRead : state.stage joiner = .looking ∨ ∃ host, state.stage joiner = .moving host)
      (ran : (act surroundings (request joiner) (remote joiner) (state.stage joiner)).run
        state.world = (.error error, after)) :
      Step state
        { state with
          world := after
          holder := none
          stage := Function.update state.stage joiner (.refused error) }
  | release {state : Contest Joiner} {joiner : Joiner} {snapshot : Snapshot}
      (held : state.holder = some joiner) (leaving : state.stage joiner = .leaving snapshot) :
      Step state
        { state with
          holder := none
          stage := Function.update state.stage joiner (.admitted snapshot) }
  | adopt {state : Contest Joiner} {content : ByteArray} {address : String} {id : Nat}
      (owes : 0 < state.owed) (told : toldAddress? state.world.disk = some address)
      (alone : IsListing content ⟨[⟨address, id, .voter⟩]⟩) :
      Step state
        { state with
          world := withListing state.world content
          owed := state.owed - 1 }
  | append {state : Contest Joiner} {content : ByteArray} {members fresh : List Member}
      (owesNothing : state.owed = 0) (listed : membersOn state.world.disk = .ok ⟨members⟩)
      (moved : Snapshot.hasMoved ⟨members⟩ = true)
      (offLoopback : ∀ member ∈ fresh, member.isLoopback = false)
      (longer : IsListing content ⟨members ++ fresh⟩) :
      Step state { state with world := withListing state.world content }
  | meanwhile {state : Contest Joiner} {after : World}
      (undisturbed : Undisturbed surroundings.storageService state.world after) :
      Step state { state with world := after }

end Stepping

/-- Before any join has begun, the store stands alone on loopback and owes nothing. -/
structure Begins {Joiner : Type} (state : Contest Joiner) : Prop where
  free : state.holder = none
  outside : ∀ joiner, state.stage joiner = .outside
  owesNothing : state.owed = 0
  alone : ∃ member : Member,
    membersOn state.world.disk = .ok ⟨[member]⟩ ∧ member.isLoopback = true

/-! ## Admissions one after another -/

section Alone

variable {Joiner : Type} [DecidableEq Joiner] {surroundings : Surroundings}
  {request : Joiner → Request} {remote : Joiner → IpAddress} {patience : Patience}
  {state : Contest Joiner} {joiner : Joiner} {world after : World} {owed : Nat}

@[simp] theorem Contest.world_going (stage : Stage) (holder : Option Joiner) :
    (state.going joiner world holder stage owed).world = world :=
  rfl

@[simp] theorem Contest.stage_going (stage : Stage) (holder : Option Joiner) :
    (state.going joiner world holder stage owed).stage joiner = stage :=
  Function.update_self ..

theorem Contest.stage_going_of_ne {other : Joiner} (different : other ≠ joiner)
    (holder : Option Joiner) (stage : Stage) :
    (state.going joiner world holder stage owed).stage other = state.stage other :=
  Function.update_of_ne different ..

@[simp] theorem Contest.going_going {later : World} {laterOwed : Nat} (stage next : Stage)
    (holder laterHolder : Option Joiner) :
    (state.going joiner world holder stage owed).going joiner later laterHolder next laterOwed =
      state.going joiner later laterHolder next laterOwed := by
  rw [going, going, Function.update_idem]
  rfl

theorem step_going {stage next : Stage}
    (ran : (act surroundings (request joiner) (remote joiner) stage).run world =
      (.ok next, after)) :
    Step surroundings request remote (state.going joiner world (some joiner) stage owed)
      (state.going joiner after (some joiner) next
        (owed + if stage = .restarting then 1 else 0)) := by
  let acting := state.going joiner world (some joiner) stage owed
  have step : Step surroundings request remote acting (acting.going joiner after (some joiner) next
      (owed + if acting.stage joiner = .restarting then 1 else 0)) :=
    .advance rfl (by rw [Contest.stage_going]; exact ran)
  rwa [Contest.going_going, Contest.stage_going] at step

theorem step_leave (snapshot : Snapshot) :
    Step surroundings request remote
      (state.going joiner world (some joiner) (.leaving snapshot) owed)
      (state.going joiner world none (.admitted snapshot) owed) := by
  let leaving := state.going joiner world (some joiner) (.leaving snapshot) owed
  have step : Step surroundings request remote leaving
      (leaving.going joiner world none (.admitted snapshot) owed) :=
    .release rfl (Contest.stage_going ..)
  rwa [Contest.going_going] at step

/-- An admission that nobody interrupts comes by steps to where it waits or leaves. -/
theorem run_of_approach {last : Stage} (free : state.holder = none)
    (outside : state.stage joiner = .outside)
    (ran : (approach surroundings (request joiner) (remote joiner) patience).run state.world =
      (.ok last, after)) :
    Relation.ReflTransGen (Step surroundings request remote) state
        (state.going joiner after (some joiner) last
          (state.owed + if last = .polling then 1 else 0)) ∧
      (last = .polling ∨
        ∃ snapshot, last = .leaving snapshot ∧ membersOn after.disk = .ok snapshot) := by
  obtain ⟨second, third, fourth, toSecond, toThird, toFourth, looked, ranSecond, ranThird,
    ranFourth⟩ := acts_of_approach ran
  have entered : Step surroundings request remote state
      (state.going joiner state.world (some joiner) .looking state.owed) := .acquire free outside
  have run : Relation.ReflTransGen (Step surroundings request remote) state _ :=
    Relation.ReflTransGen.refl
      |>.tail entered
      |>.tail (step_going looked)
      |>.tail (step_going ranSecond)
      |>.tail (step_going ranThird)
      |>.tail (step_going ranFourth)
  obtain ⟨snapshot, listed⟩ := listed_of_looking looked
  rcases act_looking_ok listed looked with ⟨_, host, rfl⟩ | ⟨_, rfl⟩
  · obtain ⟨address, rfl⟩ := act_moving_ok ranSecond
    obtain ⟨rfl, _⟩ := act_telling_ok ranThird
    obtain ⟨rfl, _⟩ := act_restarting_ok ranFourth
    exact ⟨by simpa using run, Or.inl rfl⟩
  · have still : state.world = toSecond := (act_still (Or.inl rfl)).reaches looked
    cases ranSecond
    cases ranThird
    cases ranFourth
    rw [still] at listed
    exact ⟨by simpa using run, Or.inr ⟨snapshot, rfl, listed⟩⟩

/-- An admission that nobody interrupts is a run of its own, if whatever is written while it waits
is written by steps of the store. -/
theorem run_of_admitToStore {admitted : Admitted} (free : state.holder = none)
    (outside : state.stage joiner = .outside)
    (admits : (admitToStore surroundings patience (request joiner) (remote joiner)).run
      state.world = (.ok admitted, after))
    (store : ∀ waiting time,
      (approach surroundings (request joiner) (remote joiner) patience).run state.world =
          (.ok .polling, waiting) →
        waiting.settle time = after →
          ∃ owed, Relation.ReflTransGen (Step surroundings request remote)
            (state.going joiner waiting (some joiner) .polling (state.owed + 1))
            (state.going joiner after (some joiner) .polling owed)) :
    ∃ snapshot owed, membersOn after.disk = .ok snapshot ∧
      admitted = ⟨some snapshot.voters, none⟩ ∧
        Relation.ReflTransGen (Step surroundings request remote) state
          (state.going joiner after none (.admitted snapshot) owed) := by
  rw [admitToStore_eq_act] at admits
  obtain ⟨last, middle, approached, admits⟩ := bind_ok admits
  obtain ⟨run, rfl | ⟨snapshot, rfl, listed⟩⟩ := run_of_approach free outside approached
  · obtain ⟨moved, ended, waited, admits⟩ := bind_ok admits
    cases admits
    obtain ⟨⟨time, settled⟩, polled⟩ := awaitMove_ok waited
    obtain ⟨owed, written⟩ := store middle time approached settled.symm
    obtain ⟨_, listed, _⟩ := awaitMove_listed waited
    exact ⟨moved, _, listed, rfl,
      ((run.trans written).tail (step_going polled)).tail (step_leave moved)⟩
  · cases admits
    exact ⟨snapshot, _, listed, rfl, run.tail (step_leave snapshot)⟩

end Alone

/-! ## What the store writes down -/

theorem membersOn_withListing {world : World} {content : ByteArray} {before after : Snapshot}
    (listed : membersOn world.disk = .ok before) (listing : IsListing content after) :
    membersOn (withListing world content).disk = .ok after := by
  obtain ⟨text, decoded, parsed⟩ := listing
  exact membersOn_ok_iff.mpr ((membersOn_ok_iff.mp listed).deliver rfl decoded parsed)

theorem timesTold_withListing (world : World) (content : ByteArray) :
    timesTold (withListing world content).disk = timesTold world.disk := by
  have different : Layout.membership.names ≠ Layout.addressUpdate.names := by decide
  exact List.count_cons_of_ne different

/-- A world in which the time has come that the store writes down its members. -/
theorem undisturbed_settle {world : World} {content : ByteArray} {due time : Nat}
    (pending : world.pending = [⟨due, Layout.membership.names, content⟩]) (passed : due ≤ time)
    (service : String) : Undisturbed service (withListing world content) (world.settle time) := by
  have same : (world.settle time).disk = (withListing world content).disk := by
    simp [settle, diskAt, pending, passed, withListing, deliver]
  exact ⟨by rw [same], by rw [same], by rw [same], rfl⟩

/-- A store that is about to list itself under the address that it was told does so by steps. -/
theorem run_of_settle {Joiner : Type} [DecidableEq Joiner] {surroundings : Surroundings}
    {request : Joiner → Request} {remote : Joiner → IpAddress} {state : Contest Joiner}
    {joiner : Joiner} {holder : Option Joiner} {stage : Stage} {world : World}
    {content : ByteArray} {address : String} {id due time owed : Nat}
    (pending : world.pending = [⟨due, Layout.membership.names, content⟩]) (passed : due ≤ time)
    (told : toldAddress? world.disk = some address)
    (alone : IsListing content ⟨[⟨address, id, .voter⟩]⟩) :
    Relation.ReflTransGen (Step surroundings request remote)
      (state.going joiner world holder stage (owed + 1))
      (state.going joiner (world.settle time) holder stage owed) := by
  have adopted : Step surroundings request remote
      (state.going joiner world holder stage (owed + 1))
      (state.going joiner (withListing world content) holder stage owed) :=
    .adopt (Nat.succ_pos owed) told alone
  have settled : Step surroundings request remote
      (state.going joiner (withListing world content) holder stage owed)
      (state.going joiner (world.settle time) holder stage owed) :=
    .meanwhile (undisturbed_settle pending passed _)
  exact .tail (.single adopted) settled

/-! ## Services that restart quietly -/

theorem undisturbed_refl (service : String) (world : World) : Undisturbed service world world :=
  ⟨rfl, rfl, rfl, rfl⟩

theorem undisturbed_trans {service : String} {before middle after : World}
    (first : Undisturbed service before middle) (second : Undisturbed service middle after) :
    Undisturbed service before after :=
  ⟨second.members.trans first.members, second.told.trans first.told,
    second.timesTold.trans first.timesTold, second.restarts.trans first.restarts⟩

instance (service : String) : Std.Refl (Undisturbed service) :=
  ⟨undisturbed_refl service⟩

instance (service : String) :
    Trans (Undisturbed service) (Undisturbed service) (Undisturbed service) :=
  ⟨undisturbed_trans⟩

theorem runFirst_undisturbed (service : String) (table : Programs.Table)
    (arguments candidates : List String) :
    Within (Undisturbed service) (Programs.runFirst table arguments candidates) := by
  refine Programs.runFirst_within (fun words => ?_) table arguments candidates
  exact within_modify fun world => ⟨rfl, rfl, rfl, by simp [restarts]⟩

/-- A supervisor runs programs to restart a service, and touches nothing of the store. -/
theorem supervisor_undisturbed (supervisor : Supervisor) (table : Programs.Table)
    (service restarted : String) :
    Within (Undisturbed service) (supervisor.restart table restarted) := by
  cases supervisor with
  | external => exact within_pure ()
  | systemd unitStart => exact within_adapt (runFirst_undisturbed _ _ _ _)
  | openrc serviceStart => exact within_adapt (runFirst_undisturbed _ _ _ _)

/-- A service that restarts quietly has been restarted once more, and that is all. -/
theorem undisturbed_of_restartService {surroundings : Surroundings} {before after : World}
    {service : String} (quiet : Within (Undisturbed service) (surroundings.restart service))
    (ran : (surroundings.restartService service).run before = (.ok (), after)) :
    membersOn after.disk = membersOn before.disk ∧ timesTold after.disk = timesTold before.disk ∧
      restarts service after = restarts service before + 1 := by
  obtain ⟨_, called, made, ran⟩ := bind_ok ran
  cases made
  have undisturbed := quiet.reaches ran
  refine ⟨undisturbed.members, undisturbed.timesTold, undisturbed.restarts.trans ?_⟩
  simp [restarts]

end Join
end ClusterAgent
