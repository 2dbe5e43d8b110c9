import ClusterAgent.Membership.Store
import ClusterAgent.Proofs.Files.Elsewhere
import ClusterAgent.Proofs.Files.Replacing
namespace ClusterAgent
namespace Membership

open Running World

/-! ## Snapshots of a store that moves -/

theorem isBootstrap_of_hasMoved {snapshot : Snapshot} (moved : snapshot.hasMoved = true) :
    snapshot.isBootstrap = false := by
  obtain ⟨members⟩ := snapshot
  rcases members with _ | ⟨only, _ | ⟨second, rest⟩⟩
  · rfl
  · simpa [Snapshot.hasMoved, Snapshot.isBootstrap] using moved
  · rfl

theorem hasMoved_of_isBootstrap {snapshot : Snapshot} (bootstrap : snapshot.isBootstrap = true) :
    snapshot.hasMoved = false := by
  cases moved : snapshot.hasMoved with
  | false => rfl
  | true =>
      rw [isBootstrap_of_hasMoved moved] at bootstrap
      cases bootstrap

/-- A store that lists itself alone has moved or is as it was. -/
theorem isBootstrap_or_hasMoved (member : Member) :
    Snapshot.isBootstrap ⟨[member]⟩ = true ∨ Snapshot.hasMoved ⟨[member]⟩ = true := by
  simp only [Snapshot.isBootstrap, Snapshot.hasMoved]
  cases member.isLoopback <;> simp

theorem movedTo_of_other {snapshot : Snapshot} (other : snapshot.isBootstrap = false)
    (host : String) :
    snapshot.movedTo host = .error (.notBootstrap snapshot.members.length) := by
  obtain ⟨members⟩ := snapshot
  rcases members with _ | ⟨only, _ | ⟨second, rest⟩⟩
  · rfl
  · have away : only.isLoopback = false := other
    simp [Snapshot.movedTo, away]
  · rfl

theorem other_of_movedTo {snapshot : Snapshot} {host : String} {members : Nat}
    (refused : snapshot.movedTo host = .error (.notBootstrap members)) :
    snapshot.isBootstrap = false := by
  obtain ⟨listed⟩ := snapshot
  unfold Snapshot.movedTo at refused
  split at refused
  · rename_i only shape
    cases shape
    split at refused
    · rename_i away
      have onlyAway : only.isLoopback = false := by simpa using away
      exact onlyAway
    · split at refused <;> cases refused
  · rename_i notAlone
    rcases listed with _ | ⟨only, _ | ⟨second, rest⟩⟩
    · rfl
    · exact absurd rfl (notAlone only)
    · rfl

theorem movedTo_of_loopback {member : Member} (loopback : member.isLoopback = true)
    (host : String) :
    Snapshot.movedTo ⟨[member]⟩ host =
      match (HostPort.split member.address).port with
      | none => .error (.invalidAddress member.address)
      | some port => .ok (HostPort.join host port) := by
  unfold Snapshot.movedTo
  dsimp only
  rw [loopback]
  rcases (HostPort.split member.address).port with _ | port
  · rfl
  · rfl

theorem movedTo_ok {snapshot : Snapshot} {host address : String}
    (moved : snapshot.movedTo host = .ok address) :
    ∃ member port,
      snapshot = ⟨[member]⟩ ∧ member.isLoopback = true ∧
        (HostPort.split member.address).port = some port ∧ address = HostPort.join host port := by
  obtain ⟨members⟩ := snapshot
  unfold Snapshot.movedTo at moved
  split at moved
  · rename_i only shape
    cases shape
    split at moved
    · cases moved
    · rename_i loopback
      split at moved
      · cases moved
      · rename_i port found
        cases moved
        exact ⟨only, port, rfl, by simpa using loopback, found, rfl⟩
  · cases moved

/-! ## Reading the membership -/

theorem read_within : Within Eq read := by
  refine within_bind within_get fun disk =>
    within_bind (within_adapt (Disk.readText_within _)) fun text => ?_
  split
  · exact within_pure _
  · exact within_throw _

/-- The members that the store has written down on a disk. -/
def membersOn (disk : Disk) : Except MembershipError Snapshot :=
  (read.run disk).1

theorem membersOn_eq (disk : Disk) :
    membersOn disk =
      match disk.textOf Layout.membership with
      | .error error => .error (.io (disk.shown Layout.membership) error)
      | .ok text =>
          match Snapshot.ofText? text.toList with
          | some snapshot => .ok snapshot
          | none => .error (.parse (disk.shown Layout.membership)) := by
  rw [membersOn, read, run_bind, run_get]
  dsimp only
  rw [run_bind, run_adapt, Disk.run_readText]
  rcases disk.textOf Layout.membership with error | text
  · rfl
  · dsimp only [Except.mapError]
    rcases Snapshot.ofText? text.toList with _ | snapshot <;> rfl

theorem membersOn_ne_notBootstrap {disk : Disk} {members : Nat} :
    membersOn disk ≠ .error (.notBootstrap members) := by
  intro refused
  rw [membersOn_eq] at refused
  split at refused
  · cases refused
  · split at refused <;> cases refused

theorem membersOn_elsewhere {touched : List (List String)} {before after : Disk}
    (changes : Disk.ChangesOnly touched before after)
    (elsewhere : Disk.Elsewhere touched Layout.membership.names) :
    membersOn after = membersOn before := by
  have shown : after.shown Layout.membership = before.shown Layout.membership := by
    rw [Disk.shown, Disk.shown, changes.root]
  rw [membersOn_eq, membersOn_eq, changes.textOf elsewhere, shown]

/-- The file in which the store writes down its members can be read and lists `snapshot`. -/
structure Lists (disk : Disk) (snapshot : Snapshot) : Prop where
  allowed : disk.refuses .read Layout.membership.names = none
  way : disk.Reaches Layout.membership.names
  file : ∃ content isPrivate text,
    disk.entryAt? Layout.membership.names = some (.file content isPrivate) ∧
      Utf8.decode content = .ok text ∧ Snapshot.ofText? text.toList = some snapshot

theorem membersOn_ok_iff {disk : Disk} {snapshot : Snapshot} :
    membersOn disk = .ok snapshot ↔ Lists disk snapshot := by
  rw [membersOn_eq]
  constructor
  · intro given
    rcases read : disk.textOf Layout.membership with error | text
    · rw [read] at given
      cases given
    · rw [read] at given
      dsimp only at given
      rcases parsed : Snapshot.ofText? text.toList with _ | listed
      · rw [parsed] at given
        cases given
      · rw [parsed] at given
        cases given
        obtain ⟨content, isPrivate, found, decoded⟩ := Disk.textOf_ok read
        obtain ⟨_, _, way, entry⟩ := Disk.find_file_iff.mp found
        exact ⟨Disk.allowed_of_textOf_ok read, way, content, isPrivate, text, entry, decoded,
          parsed⟩
  · rintro ⟨allowed, way, content, isPrivate, text, entry, decoded, parsed⟩
    have found : disk.find Layout.membership = .ok (.file content isPrivate) :=
      Disk.find_file_iff.mpr ⟨rfl, List.cons_ne_nil _ _, way, entry⟩
    have read : disk.textOf Layout.membership = .ok text := by
      simp only [Disk.textOf, Disk.contentOf, allowed, found, decoded]
    rw [read]
    simp only [parsed]

/-- What changes neither the file nor a directory on the way to it keeps the members. -/
theorem Lists.of_changes {before after : Disk} {snapshot : Snapshot} {touched : List (List String)}
    (lists : Lists before snapshot) (changes : Disk.ChangesOnly touched before after)
    (apart : ∀ place ∈ touched, ¬place <+: Layout.membership.names) : Lists after snapshot := by
  obtain ⟨allowed, way, content, isPrivate, text, entry, parsed⟩ := lists
  have kept : ∀ front, front <+: Layout.membership.names → front ∉ touched :=
    fun front isFront member => apart front member isFront
  refine ⟨?_, ?_, content, isPrivate, text, changes.keeps (kept _ List.prefix_rfl) entry, parsed⟩
  · rw [changes.refuses, allowed]
  · intro front rest partition frontNonempty restNonempty
    refine changes.keeps (kept front ⟨rest, partition.symm⟩) ?_
    exact way front rest partition frontNonempty restNonempty

/-- The members after another process has written the file. -/
theorem Lists.deliver {disk : Disk} {snapshot delivered : Snapshot} {delivery : Delivery}
    {text : String} (lists : Lists disk snapshot)
    (target : delivery.names = Layout.membership.names)
    (decoded : Utf8.decode delivery.content = .ok text)
    (parsed : Snapshot.ofText? text.toList = some delivered) :
    Lists (World.deliver disk delivery) delivered := by
  have changes := World.deliver_changes disk delivery
  refine ⟨?_, ?_, delivery.content, false, text, ?_, decoded, parsed⟩
  · rw [changes.refuses, lists.allowed]
  · intro front rest partition frontNonempty restNonempty
    refine changes.keeps ?_ (lists.way front rest partition frontNonempty restNonempty)
    rw [List.mem_singleton, target, partition]
    intro same
    exact restNonempty (List.self_eq_append_right.mp same)
  · rw [World.deliver, Disk.entryAt?_note, target, Disk.entryAt?_put_self]

/-! ## Telling the store its address -/

/-- How often the store was told an address. -/
def timesTold (disk : Disk) : Nat :=
  disk.written.count Layout.addressUpdate.names

theorem writeUpdate_within (address : String) :
    Within (Disk.ChangesOnly [Layout.addressUpdate.names, Layout.addressUpdate.temporary])
      (writeUpdate address) :=
  within_bind within_get fun _ =>
    within_adapt (Disk.writeAtomic_within _ (by simp) (by simp))

theorem run_writeUpdate (address : String) (disk : Disk) :
    (writeUpdate address).run disk =
      match (Disk.writeAtomic Layout.addressUpdate (updateText address).toUTF8).run disk with
      | (.ok (), written) => (.ok (), written)
      | (.error cause, written) =>
          (.error (.io (disk.shown Layout.addressUpdate) cause), written) := by
  rw [writeUpdate, run_bind, run_get]
  dsimp only
  rw [run_adapt]
  rcases (Disk.writeAtomic Layout.addressUpdate (updateText address).toUTF8).run disk with
    ⟨cause | value, written⟩
  · rfl
  · rfl

theorem writeUpdate_ok {address : String} {before after : Disk}
    (ran : (writeUpdate address).run before = (.ok (), after)) :
    (Disk.writeAtomic Layout.addressUpdate (updateText address).toUTF8).run before =
      (.ok (), after) := by
  rw [run_writeUpdate] at ran
  split at ran
  · rename_i wrote
    cases ran
    exact wrote
  · cases ran

theorem writeUpdate_error {address : String} {error : MembershipError} {before after : Disk}
    (ran : (writeUpdate address).run before = (.error error, after)) :
    ∃ cause, (Disk.writeAtomic Layout.addressUpdate (updateText address).toUTF8).run before =
      (.error cause, after) := by
  rw [run_writeUpdate] at ran
  split at ran
  · cases ran
  · rename_i cause _ failed
    cases ran
    exact ⟨cause, failed⟩

theorem timesTold_writeUpdate {address : String} {before after : Disk}
    (ran : (writeUpdate address).run before = (.ok (), after)) :
    timesTold after = timesTold before + 1 := by
  obtain ⟨_, _, written⟩ := Disk.writeAtomic_ok (writeUpdate_ok ran)
  rw [timesTold, written, List.count_cons_self, List.count_cons_of_ne (by decide), timesTold]

/-- The address is written beside the members. -/
theorem membersOn_of_writeUpdate {address : String} {disk written : Disk} {snapshot : Snapshot}
    (listed : membersOn disk = .ok snapshot)
    (ran : (writeUpdate address).run disk = (.ok (), written)) :
    membersOn written = .ok snapshot := by
  have changes := (writeUpdate_within address).reaches ran
  exact membersOn_ok_iff.mpr ((membersOn_ok_iff.mp listed).of_changes changes (by decide))

/-! ## Waiting -/

/-- A wait fails when it is cancelled or when its time is up. -/
theorem error_of_waitUntil {surroundings : Surroundings} {cancelAt : Option Nat}
    {wanted : Snapshot → Bool} {before after : World} {error : MembershipError}
    (ran : (waitUntil surroundings cancelAt wanted).run before = (.error error, after)) :
    error = .cancelled ∨ ∃ waited, error = .timeout waited := by
  have answered : (waiting surroundings cancelAt wanted before).answer = .error error :=
    congrArg Prod.fst ran
  rw [Wait.Result.answer] at answered
  split at answered
  · cases answered
  · cases answered
    exact Or.inl rfl
  · cases answered
    exact Or.inr ⟨_, rfl⟩

theorem wanted?_eq_some {history : Wait.History} {wanted : Snapshot → Bool} {time : Nat}
    {snapshot : Snapshot} (found : Wait.wanted? history wanted time = some snapshot) :
    history time = .ok snapshot ∧ wanted snapshot = true := by
  rw [Wait.wanted?] at found
  split at found
  · rename_i read
    split at found
    · rename_i isWanted
      cases found
      exact ⟨read, isWanted⟩
    · cases found
  · cases found

theorem wanted_of_pollFrom {history : Wait.History} {wanted : Snapshot → Bool}
    {interval timeout elapsed : Nat} {cancelAt : Option Nat} {snapshot : Snapshot}
    (converged : (Wait.pollFrom history wanted interval timeout cancelAt elapsed).outcome =
      .converged snapshot) :
    history (Wait.pollFrom history wanted interval timeout cancelAt elapsed).elapsed =
        .ok snapshot ∧
      wanted snapshot = true := by
  fun_induction Wait.pollFrom history wanted interval timeout cancelAt elapsed with
  | case1 elapsed given found =>
      cases converged
      exact wanted?_eq_some found
  | case2 elapsed missing late => cases converged
  | case3 elapsed missing inTime next time cancelled => cases converged
  | case4 elapsed missing inTime next goesOn later inductionHypothesis =>
      exact inductionHypothesis converged

theorem wanted_of_waiting {surroundings : Surroundings} {cancelAt : Option Nat}
    {wanted : Snapshot → Bool} {world : World} {snapshot : Snapshot}
    (converged : (waiting surroundings cancelAt wanted world).outcome = .converged snapshot) :
    historyFrom world (waiting surroundings cancelAt wanted world).elapsed = .ok snapshot ∧
      wanted snapshot = true := by
  rw [waiting, Wait.poll] at converged ⊢
  split
  · rename_i cancelled
    rw [if_pos cancelled] at converged
    cases converged
  · rename_i goesOn
    rw [if_neg goesOn] at converged
    exact wanted_of_pollFrom converged

/-- What a wait ends with is read from the disk on which it ends. -/
theorem waitUntil_ok {surroundings : Surroundings} {cancelAt : Option Nat}
    {wanted : Snapshot → Bool} {before after : World} {snapshot : Snapshot}
    (ran : (waitUntil surroundings cancelAt wanted).run before = (.ok snapshot, after)) :
    (∃ time, after = before.settle time) ∧ membersOn after.disk = .ok snapshot ∧
      wanted snapshot = true := by
  obtain ⟨answered, rfl⟩ := Prod.mk.inj ran
  refine ⟨⟨_, rfl⟩, ?_⟩
  have converged : (waiting surroundings cancelAt wanted before).outcome =
      .converged snapshot := by
    rw [Wait.Result.answer] at answered
    split at answered
    · rename_i outcome
      cases answered
      exact outcome
    · cases answered
    · cases answered
  exact wanted_of_waiting converged

end Membership
end ClusterAgent
