import ClusterAgent.Proofs.Join.Parts
import ClusterAgent.Proofs.Membership.Store
namespace ClusterAgent
namespace Join

open Running World

/-! ## Stages of a join to the replicated store -/

/-- Where a join to the replicated store stands. It holds the membership from the stage
`looking` on until it is admitted or refused. -/
inductive Stage
  | outside
  | looking
  | moving (host : String)
  | telling (address : String)
  | restarting
  | polling
  | leaving (snapshot : Membership.Snapshot)
  | admitted (snapshot : Membership.Snapshot)
  | refused (error : Error)
  deriving DecidableEq, Repr

section Acting

variable (surroundings : Surroundings) (request : Request) (remote : IpAddress)

/-- One read, write or restart of a join that holds the membership, and the stage that follows.
A poll that fails or finds the store on loopback is made again. -/
def act : Stage → Activity Error Stage
  | .looking => do
      let snapshot ← ExceptT.adapt Error.ofMembership (onDisk Membership.read)
      if snapshot.containsHost remote.toText then throw (.alreadyMember remote.toText)
      else if snapshot.isBootstrap then
        match surroundings.interfaces.bindAddress request.contacted with
        | .error cause => throw (.bindAddress cause)
        | .ok host => return .moving host
      else return .leaving snapshot
  | .moving host => do
      let snapshot ← ExceptT.adapt Error.ofMembership (onDisk Membership.read)
      let address ← ExceptT.adapt Error.ofMembership (ExceptT.mk (pure (snapshot.movedTo host)))
      return .telling address
  | .telling address => do
      ExceptT.adapt Error.ofMembership (onDisk (Membership.writeUpdate address))
      return .restarting
  | .restarting => do
      ExceptT.adapt Error.ofMembership (ExceptT.adapt MembershipError.restart
        (surroundings.restartService surroundings.storageService))
      return .polling
  | .polling => do
      match Membership.membersOn (← get).disk with
      | .ok snapshot => return if snapshot.hasMoved then .leaving snapshot else .polling
      | .error _ => return .polling
  | stage => return stage

theorem act_moving (host : String) :
    act surroundings request remote (.moving host) = (do
      let snapshot ← ExceptT.adapt Error.ofMembership (onDisk Membership.read)
      let address ← ExceptT.adapt Error.ofMembership (ExceptT.mk (pure (snapshot.movedTo host)))
      return .telling address) :=
  rfl

theorem act_telling (address : String) :
    act surroundings request remote (.telling address) = (do
      ExceptT.adapt Error.ofMembership (onDisk (Membership.writeUpdate address))
      return .restarting) :=
  rfl

theorem act_restarting :
    act surroundings request remote .restarting = (do
      ExceptT.adapt Error.ofMembership (ExceptT.adapt MembershipError.restart
        (surroundings.restartService surroundings.storageService))
      return .polling) :=
  rfl

theorem act_leaving (snapshot : Membership.Snapshot) :
    act surroundings request remote (.leaving snapshot) = return .leaving snapshot :=
  rfl

/-- The stages of an admission up to the first poll, or to its end where there is nothing to wait
for. -/
def approach (patience : Patience) : Activity Error Stage := do
  holdMembership patience
  let second ← act surroundings request remote .looking
  let third ← act surroundings request remote second
  let fourth ← act surroundings request remote third
  act surroundings request remote fourth

/-- An admission to the replicated store goes through its stages up to the first poll, and from
there on it waits. -/
theorem admitToStore_eq_act (patience : Patience) :
    admitToStore surroundings patience request remote = (do
      let last ← approach surroundings request remote patience
      match last with
      | .leaving snapshot => return ⟨some snapshot.voters, none⟩
      | _ => do
          let moved ← awaitMove surroundings patience
          return ⟨some moved.voters, none⟩) := by
  rw [admitToStore_eq, approach, bind_assoc]
  refine congrArg (bind _) (funext fun _ => ?_)
  rw [act, bind_assoc, bind_assoc]
  refine congrArg (bind _) (funext fun snapshot => ?_)
  unfold admitAsSeen
  split
  · rfl
  · split
    · rcases surroundings.interfaces.bindAddress request.contacted with cause | host
      · rfl
      · simp only [pure_bind, act_moving, act_telling, act_restarting, Membership.moveBootstrap,
          adapt_bind, bind_assoc]
    · simp only [pure_bind, act_leaving]

end Acting

/-! ## What a stage leads to -/

section Outcomes

variable {surroundings : Surroundings} {request : Request} {remote : IpAddress}
  {before after : World} {next : Stage}

theorem membership_still :
    Within Eq (ExceptT.adapt Error.ofMembership (onDisk Membership.read)) :=
  within_adapt (onDisk_still Membership.read_within)

/-- The reads of a join that has not written anything change nothing. -/
theorem act_still {stage : Stage} (reads : stage = .looking ∨ ∃ host, stage = .moving host) :
    Within Eq (act surroundings request remote stage) := by
  rcases reads with rfl | ⟨host, rfl⟩
  · refine within_bind membership_still fun snapshot => ?_
    split
    · exact within_throw _
    · split
      · split
        · exact within_throw _
        · exact within_pure _
      · exact within_pure _
  · exact within_bind membership_still fun snapshot =>
      within_bind (fun _ => rfl) fun address => within_pure _

theorem act_looking_ok {snapshot : Membership.Snapshot}
    (listed : Membership.membersOn before.disk = .ok snapshot)
    (ran : (act surroundings request remote .looking).run before = (.ok next, after)) :
    snapshot.isBootstrap = true ∧ (∃ host, next = .moving host) ∨
      snapshot.isBootstrap = false ∧ next = .leaving snapshot := by
  obtain ⟨seen, middle, read, ran⟩ := bind_ok ran
  have same : (Except.ok snapshot : Except MembershipError Membership.Snapshot) = .ok seen := by
    rw [← listed]
    exact congrArg Prod.fst (adapt_ok read)
  cases same
  split at ran
  · cases ran
  · split at ran
    · rename_i bootstrap
      split at ran
      · cases ran
      · cases ran
        exact Or.inl ⟨bootstrap, _, rfl⟩
    · rename_i notBootstrap
      cases ran
      exact Or.inr ⟨by simpa using notBootstrap, rfl⟩

theorem listed_of_looking
    (ran : (act surroundings request remote .looking).run before = (.ok next, after)) :
    ∃ snapshot, Membership.membersOn before.disk = .ok snapshot := by
  obtain ⟨seen, _, read, _⟩ := bind_ok ran
  exact ⟨seen, congrArg Prod.fst (adapt_ok read)⟩

theorem act_moving_ok {host : String}
    (ran : (act surroundings request remote (.moving host)).run before = (.ok next, after)) :
    ∃ address, next = .telling address := by
  obtain ⟨_, _, _, ran⟩ := bind_ok ran
  obtain ⟨address, _, _, ran⟩ := bind_ok ran
  cases ran
  exact ⟨address, rfl⟩

theorem act_telling_ok {address : String}
    (ran : (act surroundings request remote (.telling address)).run before = (.ok next, after)) :
    next = .restarting ∧
      (Membership.writeUpdate address).run before.disk = (.ok (), after.disk) ∧
        after = { before with disk := after.disk } := by
  obtain ⟨_, _, wrote, ran⟩ := bind_ok ran
  cases ran
  exact ⟨rfl, onDisk_ran (adapt_ok wrote)⟩

theorem act_restarting_ok
    (ran : (act surroundings request remote .restarting).run before = (.ok next, after)) :
    next = .polling ∧
      (surroundings.restartService surroundings.storageService).run before = (.ok (), after) := by
  obtain ⟨_, _, restarted, ran⟩ := bind_ok ran
  cases ran
  exact ⟨rfl, adapt_ok (adapt_ok restarted)⟩

theorem run_moving (host : String) (world : World) :
    (act surroundings request remote (.moving host)).run world =
      ((((Membership.membersOn world.disk).bind (·.movedTo host)).mapError Error.ofMembership).map
        Stage.telling, world) := by
  have read : (ExceptT.adapt Error.ofMembership (onDisk Membership.read)).run world =
      ((Membership.membersOn world.disk).mapError Error.ofMembership, world) :=
    Prod.ext rfl (membership_still world).symm
  rw [act_moving, run_bind, read]
  rcases Membership.membersOn world.disk with error | snapshot
  · rfl
  · dsimp only [Except.mapError, Except.bind]
    rcases snapshot.movedTo host with error | address <;> rfl

theorem run_polling (world : World) :
    (act surroundings request remote .polling).run world =
      (match Membership.membersOn world.disk with
        | .ok snapshot => .ok (if snapshot.hasMoved then .leaving snapshot else .polling)
        | .error _ => .ok .polling, world) := by
  rw [act, run_bind, run_get]
  dsimp only
  rcases Membership.membersOn world.disk with error | snapshot <;> rfl

theorem holdMembership_ok {patience : Patience}
    (ran : (holdMembership patience).run before = (.ok (), after)) : after = before := by
  rw [holdMembership.eq_def] at ran
  split at ran
  · cases ran
  · cases ran
    rfl

/-- The four acts of an admission that is not refused before it waits. -/
theorem acts_of_approach {patience : Patience}
    (ran : (approach surroundings request remote patience).run before = (.ok next, after)) :
    ∃ second third fourth toSecond toThird toFourth,
      (act surroundings request remote .looking).run before = (.ok second, toSecond) ∧
        (act surroundings request remote second).run toSecond = (.ok third, toThird) ∧
          (act surroundings request remote third).run toThird = (.ok fourth, toFourth) ∧
            (act surroundings request remote fourth).run toFourth = (.ok next, after) := by
  obtain ⟨_, _, held, ranActs⟩ := bind_ok ran
  obtain rfl := holdMembership_ok held
  obtain ⟨second, toSecond, looked, ranSecond⟩ := bind_ok ranActs
  obtain ⟨third, toThird, moved, ranThird⟩ := bind_ok ranSecond
  obtain ⟨fourth, toFourth, told, ranFourth⟩ := bind_ok ranThird
  exact ⟨second, third, fourth, toSecond, toThird, toFourth, looked, moved, told, ranFourth⟩

/-! ## Waiting and polling -/

/-- What a wait ends with is listed on the disk on which it ends, and has moved. -/
theorem awaitMove_listed {patience : Patience} {snapshot : Membership.Snapshot}
    (ran : (awaitMove surroundings patience).run before = (.ok snapshot, after)) :
    (∃ time, after = before.settle time) ∧
      Membership.membersOn after.disk = .ok snapshot ∧ snapshot.hasMoved = true := by
  -- A deadline only turns some answers of the same wait into failures.
  have waited {answer : Except Error Membership.Snapshot × World}
      (ranWait : (ExceptT.adapt Error.ofMembership (Membership.waitUntil surroundings
        before.shutdownAt Membership.Snapshot.hasMoved)).run before = answer)
      (answered : answer = (.ok snapshot, after)) :
      (∃ time, after = before.settle time) ∧
        Membership.membersOn after.disk = .ok snapshot ∧ snapshot.hasMoved = true :=
    Membership.waitUntil_ok (adapt_ok (ranWait.trans answered))
  rw [run_awaitMove] at ran
  dsimp only at ran
  split at ran
  · split at ran
    · cases ran
    · exact waited rfl ran
  · exact waited rfl ran

/-- A wait that ends well ends with a poll that does, at a later time. -/
theorem awaitMove_ok {patience : Patience} {snapshot : Membership.Snapshot}
    (ran : (awaitMove surroundings patience).run before = (.ok snapshot, after)) :
    (∃ time, after = before.settle time) ∧
      (act surroundings request remote .polling).run after = (.ok (.leaving snapshot), after) := by
  obtain ⟨settled, listed, moved⟩ := awaitMove_listed ran
  refine ⟨settled, ?_⟩
  rw [run_polling, listed]
  simp only [moved, if_true]

end Outcomes

end Join
end ClusterAgent
