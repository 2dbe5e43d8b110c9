import ClusterAgent.Proofs.Join.Guards
import ClusterAgent.Proofs.Net.BindAddress
namespace ClusterAgent

open Running World

namespace HostPort

/-- Whether the host of an address in text is a loopback address. -/
def onLoopback (address : String) : Bool :=
  (IpAddress.ofText? (split address).host).any IpAddress.isLoopback

theorem onLoopback_join {host port : String} {address : IpAddress}
    (reads : IpAddress.ofText? host = some address) (single : ':' ∉ port.toList) :
    onLoopback (join host port) = address.isLoopback := by
  rw [onLoopback, host_split_join reads single, reads, Option.any_some]

end HostPort

namespace Membership

/-! ## Telling the store its address -/

/-- The store is told the address once, unless another process is going to tell it one. -/
def Tells (address : String) (before after : World) : Prop :=
  NoneDue Layout.addressUpdate.names before →
    NoneDue Layout.addressUpdate.names after ∧
      timesTold after.disk = timesTold before.disk + 1 ∧
        ∃ isPrivate, after.disk.fileAt? Layout.addressUpdate.names =
          some ((updateText address).toUTF8, isPrivate)

section Telling

variable {address : String} {before middle after : World}

theorem tells_after_spares (spares : Spares Layout.addressUpdate.names before middle)
    (tells : Tells address middle after) : Tells address before after := by
  intro noneDue
  have untouched := spares noneDue
  obtain ⟨noneLater, times, file⟩ := tells untouched.noneDue
  exact ⟨noneLater, times.trans (congrArg (· + 1) untouched.timesWritten), file⟩

theorem tells_before_spares (tells : Tells address before middle)
    (spares : Spares Layout.addressUpdate.names middle after) : Tells address before after := by
  intro noneDue
  obtain ⟨noneLater, times, isPrivate, file⟩ := tells noneDue
  have untouched := spares noneLater
  exact ⟨untouched.noneDue, untouched.timesWritten.trans times, isPrivate,
    untouched.file.trans file⟩

theorem tells_of_writeUpdate (ran : (onDisk (writeUpdate address)).run before = (.ok (), after)) :
    Tells address before after := by
  obtain ⟨ran, shape⟩ := onDisk_ran ran
  intro noneDue
  refine ⟨?_, timesTold_writeUpdate ran, ?_⟩
  · rw [shape]
    exact noneDue
  · obtain ⟨⟨isPrivate, entry⟩, _⟩ := Disk.writeAtomic_ok (writeUpdate_ok ran)
    exact ⟨isPrivate, Disk.fileAt?_of_entry entry⟩

/-- A store that could not be told its new address was not told any. -/
theorem spares_of_writeUpdate {error : MembershipError}
    (ran : (onDisk (writeUpdate address)).run before = (.error error, after)) :
    Spares Layout.addressUpdate.names before after := by
  obtain ⟨ran, shape⟩ := onDisk_ran ran
  obtain ⟨_, failed⟩ := writeUpdate_error ran
  exact spares_of_changes (Disk.writeAtomic_failed failed) (by decide) (by rw [shape])

end Telling

/-! ## The address that is chosen -/

/-- The store stands alone on loopback, with this port, and the host is the bind address for a
node that has called `contacted`. -/
structure ChosenFor (interfaces : Interfaces) (contacted : String) (disk : Disk)
    (host port : String) : Prop where
  alone : ∃ member,
    membersOn disk = .ok ⟨[member]⟩ ∧ member.isLoopback = true ∧
      (HostPort.split member.address).port = some port
  bound : interfaces.bindAddress contacted = .ok host

/-- The chosen address is on loopback exactly when the contacted one is, unless a subnet mixes
loopback addresses with others or the store's port is not plain. -/
theorem ChosenFor.onLoopback_eq {interfaces : Interfaces} {contacted host port : String}
    {disk : Disk} {address : IpAddress} (chosen : ChosenFor interfaces contacted disk host port)
    (reads : IpAddress.ofText? (HostPort.split contacted).host = some address)
    (single : ':' ∉ port.toList)
    (separate : ∀ cidrs, interfaces = some cidrs → ∀ cidr ∈ cidrs, cidr.KeepsLoopback) :
    HostPort.onLoopback (HostPort.join host port) = address.isLoopback := by
  obtain ⟨bound, hostReads, source⟩ := Interfaces.ofText?_bindAddress chosen.bound reads
  rw [HostPort.onLoopback_join hostReads single]
  rcases source with ⟨_, rfl⟩ | ⟨cidrs, listed, selected⟩
  · rfl
  · exact Interfaces.isLoopback_select (separate cidrs listed) selected

section Moving

variable {surroundings : Surroundings} {host : String} {before after : World}

/-- Moving the store tells it nothing or the new address, and fails or not. -/
theorem moveBootstrap_cases (leave : surroundings.LeaveAlone Layout.addressUpdate.names)
    {contacted : String} (bound : surroundings.interfaces.bindAddress contacted = .ok host)
    {result : Except MembershipError Unit}
    (ran : (moveBootstrap surroundings host).run before = (result, after)) :
    Spares Layout.addressUpdate.names before after ∨
      ∃ port, ChosenFor surroundings.interfaces contacted before.disk host port ∧
        Tells (HostPort.join host port) before after := by
  have reading : Within Eq (onDisk read) := onDisk_still read_within
  rcases bind_cases ran with ⟨_, failed⟩ | ⟨snapshot, _, listed, ran⟩
  · cases reading.reaches failed
    exact Or.inl (spares_refl _ _)
  cases reading.reaches listed
  rcases given_cases ran with ⟨_, _, rfl⟩ | ⟨address, isMoved, ran⟩
  · exact Or.inl (spares_refl _ _)
  obtain ⟨member, port, rfl, loopback, found, rfl⟩ := movedTo_ok isMoved
  rcases bind_cases ran with ⟨_, failed⟩ | ⟨_, _, wrote, ran⟩
  · exact Or.inl (spares_of_writeUpdate failed)
  · have restarting : Within (Spares Layout.addressUpdate.names)
        (ExceptT.adapt MembershipError.restart
          (surroundings.restartService surroundings.storageService)) :=
      within_adapt (leave.obey.restartService _)
    refine Or.inr ⟨port, ⟨⟨member, congrArg Prod.fst listed, loopback, found⟩, bound⟩, ?_⟩
    exact tells_before_spares (tells_of_writeUpdate wrote) (restarting.reaches ran)

end Moving

end Membership

namespace Join

open ClusterAgent.Membership

/-! ## Joins that tell the store its address -/

section Telling

variable {surroundings : Surroundings} {patience : Patience} {request : Request}
  {before after : World}

theorem admitToStore_cases (leave : surroundings.LeaveAlone Layout.addressUpdate.names)
    {remote : IpAddress} {result : Except Error Admitted}
    (ran : (admitToStore surroundings patience request remote).run before = (result, after)) :
    Spares Layout.addressUpdate.names before after ∨
      ∃ host port,
        ChosenFor surroundings.interfaces request.contacted before.disk host port ∧
          Tells (HostPort.join host port) before after := by
  rw [admitToStore_eq] at ran
  rcases bind_cases ran with ⟨_, failed⟩ | ⟨_, _, held, ran⟩
  · exact Or.inl ((holdMembership_spares patience).reaches failed)
  cases holdMembership_ok held
  rcases bind_cases ran with ⟨_, failed⟩ | ⟨snapshot, _, read, ran⟩
  · cases membership_still.reaches failed
    exact Or.inl (spares_refl _ _)
  cases membership_still.reaches read
  unfold admitAsSeen at ran
  split at ran
  · cases ran
    exact Or.inl (spares_refl _ _)
  · split at ran
    · split at ran
      · cases ran
        exact Or.inl (spares_refl _ _)
      · rename_i host bound
        have waiting : Within (Spares Layout.addressUpdate.names) (do
            let moved ← awaitMove surroundings patience
            return ⟨some moved.voters, none⟩ : Activity Error Admitted) :=
          within_bind (awaitMove_spares patience) fun _ => within_pure _
        -- Whether moving the store fails or not, what follows it writes nothing.
        obtain ⟨moved, middle, ranMove, reached⟩ :
            ∃ moved middle, (moveBootstrap surroundings host).run before = (moved, middle) ∧
              Spares Layout.addressUpdate.names middle after := by
          rcases bind_cases ran with ⟨_, failed⟩ | ⟨_, middle, moving, ran⟩
          · obtain ⟨moved, ranMove⟩ := adapt_cases failed
            exact ⟨moved, after, ranMove, spares_refl _ _⟩
          · exact ⟨_, middle, adapt_ok moving, waiting.reaches ran⟩
        rcases moveBootstrap_cases leave bound ranMove with spares | ⟨port, chosen, tells⟩
        · exact Or.inl (spares_trans spares reached)
        · exact Or.inr ⟨host, port, chosen, tells_before_spares tells reached⟩
    · cases ran
      exact Or.inl (spares_refl _ _)

theorem grant_cases (leave : surroundings.LeaveAlone Layout.addressUpdate.names)
    {result : Except Error Response}
    (ran : (grant surroundings patience .replicatedStore request).run before = (result, after)) :
    Spares Layout.addressUpdate.names before after ∨
      ∃ host port,
        ChosenFor surroundings.interfaces request.contacted before.disk host port ∧
          Tells (HostPort.join host port) before after := by
  rcases bind_cases ran with ⟨_, failed⟩ | ⟨_, _, fetched, ran⟩
  · cases failed
  cases fetched
  rcases given_cases ran with ⟨_, _, rfl⟩ | ⟨remote, _, ran⟩
  · exact Or.inl (spares_refl _ _)
  rcases given_cases ran with ⟨_, _, rfl⟩ | ⟨override, _, ran⟩
  · exact Or.inl (spares_refl _ _)
  rcases bind_cases ran with ⟨_, failed⟩ | ⟨admitted, middle, admission, ran⟩
  · exact admitToStore_cases leave failed
  · have completed : Spares Layout.addressUpdate.names middle after :=
      (complete_spares leave (by decide) .replicatedStore request remote override
        admitted).reaches ran
    rcases admitToStore_cases leave admission with spares | ⟨host, port, chosen, tells⟩
    · exact Or.inl (spares_trans spares completed)
    · exact Or.inr ⟨host, port, chosen, tells_before_spares tells completed⟩

/-- A join to the replicated store, whether it succeeds or fails, tells the store nothing or the
address that is chosen for the contacted host. -/
theorem join_cases (leave : surroundings.LeaveAlone Layout.addressUpdate.names)
    {result : Except Error Response}
    (ran : (join surroundings patience .replicatedStore request).run before = (result, after)) :
    Spares Layout.addressUpdate.names before after ∨
      ∃ host port,
        ChosenFor surroundings.interfaces request.contacted before.disk host port ∧
          Tells (HostPort.join host port) before after := by
  have consuming : Within (Spares Layout.addressUpdate.names)
      (onTokens (Tokens.consume .cluster request.token before.seconds)) :=
    onTokens_spares Tokens.consume_within (by decide)
  rw [join_eq] at ran
  rcases bind_cases ran with ⟨_, failed⟩ | ⟨_, _, fetched, ran⟩
  · cases failed
  cases fetched
  rcases bind_cases ran with ⟨_, failed⟩ | ⟨accepted, middle, consumed, ran⟩
  · exact Or.inl (consuming.reaches failed)
  have spent := consuming.reaches consumed
  cases accepted with
  | false =>
      cases ran
      exact Or.inl spent
  | true =>
      -- The members are read after the token is spent, but from another file.
      have changes : Disk.ChangesOnly (Tokens.footprint .cluster) before.disk middle.disk :=
        Tokens.consume_within.reaches (onDisk_ran (adapt_ok consumed)).1
      rcases grant_cases leave ran with spares | ⟨host, port, ⟨alone, bound⟩, tells⟩
      · exact Or.inl (spares_trans spent spares)
      · rw [membersOn_elsewhere changes (by decide)] at alone
        exact Or.inr ⟨host, port, ⟨alone, bound⟩, tells_after_spares spent tells⟩

/-- A join to the replicated store that tells the store an address tells it the bind address for
the contacted host, with the port of the lone member. That is a loopback address exactly when
the contacted host is one: nothing else keeps the store off loopback. -/
theorem told_bind_address (leave : surroundings.LeaveAlone Layout.addressUpdate.names)
    (noneDue : NoneDue Layout.addressUpdate.names before) {result : Except Error Response}
    (ran : (join surroundings patience .replicatedStore request).run before = (result, after))
    (told : timesTold after.disk ≠ timesTold before.disk) :
    ∃ host port,
      ChosenFor surroundings.interfaces request.contacted before.disk host port ∧
        timesTold after.disk = timesTold before.disk + 1 ∧
          (∃ isPrivate, after.disk.fileAt? Layout.addressUpdate.names =
            some ((updateText (HostPort.join host port)).toUTF8, isPrivate)) ∧
            ∀ address,
              IpAddress.ofText? (HostPort.split request.contacted).host = some address →
                ':' ∉ port.toList →
                  (∀ cidrs, surroundings.interfaces = some cidrs →
                    ∀ cidr ∈ cidrs, cidr.KeepsLoopback) →
                      HostPort.onLoopback (HostPort.join host port) = address.isLoopback := by
  rcases join_cases leave ran with spares | ⟨host, port, chosen, tells⟩
  · exact absurd (spares noneDue).timesWritten told
  · obtain ⟨_, times, file⟩ := tells noneDue
    exact ⟨host, port, chosen, times, file, fun _ => chosen.onLoopback_eq⟩

end Telling

/-! ## A store that stays on loopback -/

def loopbackStore : World :=
  storeNode "- Address: 127.0.0.1:19001\n  ID: 1\n  Role: 0\n"

/-- A node with its loopback interface and one other, which does not wait for its store. -/
def impatient : Surroundings :=
  { Rehearsal.quiet with
    interfaces := some [.new (.v4 0x7F000001) 8, .new (.v4 0x0A000001) 24]
    waitTimeout := 0 }

theorem impatient_leaveAlone : impatient.LeaveAlone Layout.addressUpdate.names := by
  have quiet : Rehearsal.quiet.LeaveAlone Layout.addressUpdate.names :=
    Surroundings.rehearsal_leaveAlone (by decide) _ _
  exact ⟨quiet.restart, quiet.apply, quiet.listNodes⟩

theorem impatient_keepsLoopback :
    ∀ cidrs, impatient.interfaces = some cidrs → ∀ cidr ∈ cidrs, cidr.KeepsLoopback := by
  rintro cidrs listed cidr member
  cases listed
  simp only [List.mem_cons, List.not_mem_nil, or_false] at member
  rcases member with rfl | rfl
  · exact Cidr.keepsLoopback_v4 (by decide)
  · exact Cidr.keepsLoopback_v4 (by decide)

theorem loopbackStore_noneDue : NoneDue Layout.addressUpdate.names loopbackStore :=
  fun _ member => absurd member List.not_mem_nil

/-- The only member of the store is written down with a plain port. -/
theorem loopbackStore_port {interfaces : Interfaces} {contacted host port : String}
    (chosen : ChosenFor interfaces contacted loopbackStore.disk host port) :
    port = "19001" := by
  obtain ⟨member, listed, _, found⟩ := chosen.alone
  have stored : (membersOn loopbackStore.disk).toOption =
      some ⟨[⟨"127.0.0.1:19001", 1, .voter⟩]⟩ := by
    decide +kernel
  rw [listed] at stored
  cases stored
  have split : (HostPort.split "127.0.0.1:19001").port = some "19001" := by decide +kernel
  exact (Option.some.inj (split.symm.trans found)).symm

/-- What becomes of the store when a node joins that has called this one so. -/
def afterCall (contacted : String) : World :=
  ((join impatient .endless .replicatedStore (memberCalling contacted "10.0.0.2")).run
    loopbackStore).2

theorem afterCall_ran (contacted : String) :
    (join impatient .endless .replicatedStore (memberCalling contacted "10.0.0.2")).run
        loopbackStore =
      (((join impatient .endless .replicatedStore (memberCalling contacted "10.0.0.2")).run
        loopbackStore).1, afterCall contacted) :=
  Prod.ext rfl rfl

theorem loopbackStore_told :
    timesTold (afterCall "10.0.0.1:25001").disk ≠ timesTold loopbackStore.disk ∧
      ∃ host port,
        ChosenFor impatient.interfaces "10.0.0.1:25001" loopbackStore.disk host port ∧
          timesTold (afterCall "10.0.0.1:25001").disk = timesTold loopbackStore.disk + 1 ∧
            (∃ isPrivate,
              (afterCall "10.0.0.1:25001").disk.fileAt? Layout.addressUpdate.names =
                some ((updateText (HostPort.join host port)).toUTF8, isPrivate)) ∧
              (∀ address,
                IpAddress.ofText? (HostPort.split "10.0.0.1:25001").host = some address →
                  ':' ∉ port.toList →
                    (∀ cidrs, impatient.interfaces = some cidrs →
                      ∀ cidr ∈ cidrs, cidr.KeepsLoopback) →
                        HostPort.onLoopback (HostPort.join host port) = address.isLoopback) ∧
                HostPort.onLoopback (HostPort.join host port) = false := by
  have told : timesTold (afterCall "10.0.0.1:25001").disk ≠ timesTold loopbackStore.disk := by
    decide +kernel
  obtain ⟨host, port, chosen, times, file, onLoopback⟩ :=
    told_bind_address impatient_leaveAlone loopbackStore_noneDue (afterCall_ran "10.0.0.1:25001")
      told
  have reads : IpAddress.ofText? (HostPort.split "10.0.0.1:25001").host =
      some (.v4 0x0A000001) := by
    rfl
  have plain : ':' ∉ port.toList := by
    rw [loopbackStore_port chosen]
    decide
  exact ⟨told, host, port, chosen, times, file, onLoopback,
    onLoopback (.v4 0x0A000001) reads plain impatient_keepsLoopback⟩

/-- A node that has called this one under a loopback address leaves the store on loopback. -/
theorem told_address_may_be_loopback :
    ¬∀ (surroundings : Surroundings) (patience : Patience) (request : Request)
        (before after : World) (result : Except Error Response),
      surroundings.LeaveAlone Layout.addressUpdate.names →
        NoneDue Layout.addressUpdate.names before →
          (join surroundings patience .replicatedStore request).run before = (result, after) →
            timesTold after.disk ≠ timesTold before.disk →
              ∀ address isPrivate,
                after.disk.fileAt? Layout.addressUpdate.names =
                    some ((updateText address).toUTF8, isPrivate) →
                  HostPort.onLoopback address = false := by
  intro offLoopback
  have told : timesTold (afterCall "127.0.0.1:25001").disk ≠ timesTold loopbackStore.disk := by
    decide +kernel
  have file : (afterCall "127.0.0.1:25001").disk.fileAt? Layout.addressUpdate.names =
      some ((updateText "127.0.0.1:19001").toUTF8, false) := by
    decide +kernel
  have moved := offLoopback impatient .endless (memberCalling "127.0.0.1:25001" "10.0.0.2")
    loopbackStore _ _ impatient_leaveAlone loopbackStore_noneDue (afterCall_ran _) told _ _ file
  have stays : HostPort.onLoopback "127.0.0.1:19001" = true := by decide +kernel
  rw [stays] at moved
  cases moved

end Join
end ClusterAgent
