import ClusterAgent.Proofs.Files.Renewing
import ClusterAgent.Proofs.Membership.Store
import ClusterAgent.Proofs.Net.HostPort
import ClusterAgent.Proofs.Text.Words
import ClusterAgent.Rehearsal.Storage
namespace ClusterAgent
namespace Membership

open Running World

/-! ## The address of a store that moves -/

/-- The document with this address can be read again. -/
def ReadsBack (address : String) : Prop :=
  updateAddress? (updateText address).toList = some address

instance (address : String) : Decidable (ReadsBack address) :=
  inferInstanceAs (Decidable (_ = _))

/-! ## Telling the store its address -/

/-- The store was told the address in this text, and nothing else has happened. -/
structure ToldOnly (text : String) (before told : World) : Prop where
  shape : told = { before with disk := told.disk }
  changes : Disk.ChangesOnly [Layout.addressUpdate.names, Layout.addressUpdate.temporary]
    before.disk told.disk
  members : told.disk.entryAt? Layout.membership.names =
    before.disk.entryAt? Layout.membership.names
  stored : told.disk.Stores Layout.addressUpdate text

/-- Neither the members nor the address that the store was told have changed, and nothing has
been called. -/
structure Unmoved (before after : World) : Prop where
  shape : after = { before with disk := after.disk }
  members : after.disk.entryAt? Layout.membership.names =
    before.disk.entryAt? Layout.membership.names
  told : after.disk.entryAt? Layout.addressUpdate.names =
    before.disk.entryAt? Layout.addressUpdate.names

section Telling

variable {address : String} {snapshot : Snapshot} {disk written : Disk} {before after : World}

/-- The file that the store is told its address in stands beside the one with its members. -/
theorem addressUpdate_reached (listed : membersOn disk = .ok snapshot) :
    disk.Reaches Layout.addressUpdate.names := by
  have way : disk.Reaches (["var", "kubernetes", "backend"] ++ ["cluster.yaml"]) :=
    (membersOn_ok_iff.mp listed).way
  exact way.beside "update.yaml"

theorem toldOnly_of_writeAtomic
    (wrote : (Disk.writeAtomic Layout.addressUpdate (updateText address).toUTF8).run before.disk =
      (.ok (), written)) :
    ToldOnly (updateText address) before { before with disk := written } := by
  have changes : Disk.ChangesOnly
      [Layout.addressUpdate.names, Layout.addressUpdate.temporary] before.disk written :=
    (Disk.writeAtomic_within _ (by simp) (by simp)).reaches wrote
  exact ⟨rfl, changes, changes.entryAt? (by decide), Disk.writeAtomic_stores wrote⟩

theorem unmoved_of_writeAtomic {content : ByteArray} {cause : IoError}
    (failed : (Disk.writeAtomic Layout.addressUpdate content).run before.disk =
      (.error cause, written)) : Unmoved before { before with disk := written } := by
  have changes := Disk.writeAtomic_failed failed
  exact ⟨rfl, changes.entryAt? (by decide), changes.entryAt? (by decide)⟩

end Telling

/-! ## Moving the store -/

section Moving

variable {host : String} {before : World}

/-- The new address is chosen from what was read, then it is written, and then the store is
restarted. -/
theorem run_moveBootstrap (surroundings : Surroundings) (host : String) (before : World) :
    (moveBootstrap surroundings host).run before =
      match membersOn before.disk with
      | .error error => (.error error, before)
      | .ok snapshot =>
          match snapshot.movedTo host with
          | .error error => (.error error, before)
          | .ok address =>
              match (writeUpdate address).run before.disk with
              | (.error error, written) => (.error error, { before with disk := written })
              | (.ok (), written) =>
                  (ExceptT.adapt MembershipError.restart
                    (surroundings.restart surroundings.storageService)).run
                      { before with
                        disk := written
                        calls := before.calls ++ [.restart surroundings.storageService] } := by
  have listed : read.run before.disk = (membersOn before.disk, before.disk) :=
    Prod.ext rfl (read_within before.disk).symm
  rw [moveBootstrap, run_bind, run_onDisk, listed]
  rcases membersOn before.disk with error | snapshot
  · rfl
  dsimp only
  rcases snapshot.movedTo host with error | address
  · rfl
  rw [run_given rfl, run_bind, run_onDisk]
  dsimp only
  rcases (writeUpdate address).run before.disk with ⟨error | value, written⟩
  · rfl
  · rfl

/-- Moving a store keeps its port, and does all of it or nothing up to the restart. -/
theorem moveBootstrap_all_or_nothing (surroundings : Surroundings) (before : World)
    (noOpen : '[' ∉ host.toList) (noClose : ']' ∉ host.toList)
    (trimmed : Text.Trimmed host.toList) :
    (∀ error, membersOn before.disk = .error error →
      (moveBootstrap surroundings host).run before = (.error error, before)) ∧
    (∀ snapshot, membersOn before.disk = .ok snapshot → snapshot.isBootstrap = false →
      (moveBootstrap surroundings host).run before =
        (.error (.notBootstrap snapshot.members.length), before)) ∧
    ∀ member, membersOn before.disk = .ok ⟨[member]⟩ → member.isLoopback = true →
      ((HostPort.split member.address).port = none →
        (moveBootstrap surroundings host).run before =
          (.error (.invalidAddress member.address), before)) ∧
      ∀ port, (HostPort.split member.address).port = some port →
        (Disk.Accepts Layout.addressUpdate before.disk →
          ∃ told text, ToldOnly text before told ∧
            (moveBootstrap surroundings host).run before =
              (ExceptT.adapt MembershipError.restart
                (surroundings.restart surroundings.storageService)).run
                  { told with
                    calls := before.calls ++ [.restart surroundings.storageService] } ∧
            ((∀ character ∈ port.toList, character.isDigit = true) →
              ReadsBack (HostPort.join host port) →
                (updateAddress? text.toList).map HostPort.split = some ⟨host, some port⟩)) ∧
        (¬Disk.Accepts Layout.addressUpdate before.disk →
          ∃ cause after,
            (moveBootstrap surroundings host).run before =
                (.error (.io (before.disk.shown Layout.addressUpdate) cause), after) ∧
              Unmoved before after) := by
  have run := run_moveBootstrap surroundings host before
  refine ⟨fun error failed => ?_, fun snapshot listed other => ?_, fun member listed loopback => ?_⟩
  · rw [run, failed]
  · rw [run, listed]
    dsimp only
    rw [movedTo_of_other other]
  rw [listed] at run
  dsimp only at run
  rw [movedTo_of_loopback loopback] at run
  refine ⟨fun missing => ?_, fun port found => ?_⟩
  · rw [run, missing]
  rw [found] at run
  dsimp only at run
  rw [run_writeUpdate] at run
  have way := addressUpdate_reached listed
  refine ⟨fun accepts => ?_, fun refused => ?_⟩
  · obtain ⟨written, wrote⟩ := (Disk.writeAtomic_iff way).mpr accepts
    rw [wrote] at run
    refine ⟨_, _, toldOnly_of_writeAtomic wrote, run, fun digits readsBack => ?_⟩
    rw [readsBack, Option.map_some, HostPort.split_join_of_digits noOpen noClose trimmed
      (HostPort.port_ne_empty found) digits]
  · rcases wrote : (Disk.writeAtomic Layout.addressUpdate
        (updateText (HostPort.join host port)).toUTF8).run before.disk with ⟨cause | value, written⟩
    · rw [wrote] at run
      exact ⟨cause, _, run, unmoved_of_writeAtomic wrote⟩
    · exact absurd ((Disk.writeAtomic_iff way).mp ⟨written, wrote⟩) refused

end Moving

/-! ## A store on an IPv6 loopback address -/

def sixMember : Member :=
  ⟨"[::1]:19001", 1, .voter⟩

/-- The store was told an address before, which other users may not read. -/
def sixStore : World where
  disk :=
    { Disk.empty "/data" with
      entries :=
        [(["var"], .directory), (["var", "kubernetes"], .directory),
          (["var", "kubernetes", "backend"], .directory),
          (["var", "kubernetes", "backend", "cluster.yaml"],
            .file "- Address: '[::1]:19001'\n  ID: 1\n  Role: 0\n".toUTF8 false),
          (["var", "kubernetes", "backend", "update.yaml"], .file "old".toUTF8 true)] }
  clock := 1000
  pending := []
  calls := [.listNodes]
  drawn := 0
  shutdownAt := none

theorem sixStore_listed : membersOn sixStore.disk = .ok ⟨[sixMember]⟩ :=
  congrArg Prod.fst (run_of_toOption (by decide +kernel))

theorem sixStore_accepts : Disk.Accepts Layout.addressUpdate sixStore.disk := by
  have target : sixStore.disk.entryAt? Layout.addressUpdate.names =
      some (.file "old".toUTF8 true) := rfl
  have beside : sixStore.disk.entryAt? Layout.addressUpdate.temporary = none := rfl
  refine ⟨rfl, by decide, addressUpdate_reached sixStore_listed, ?_, ?_, rfl, rfl, rfl⟩
  · rw [target]
    simp
  · rw [beside]
    simp

theorem sixStore_moved :
    '[' ∉ "fd00::5".toList ∧ ']' ∉ "fd00::5".toList ∧ Text.Trimmed "fd00::5".toList ∧
      membersOn sixStore.disk = .ok ⟨[sixMember]⟩ ∧ sixMember.isLoopback = true ∧
      (HostPort.split sixMember.address).port = some "19001" ∧
      Disk.Accepts Layout.addressUpdate sixStore.disk ∧ ReadsBack "[fd00::5]:19001" ∧
      ∃ told text, ToldOnly text sixStore told ∧
        (moveBootstrap Rehearsal.quiet "fd00::5").run sixStore =
          (.ok (), { told with calls := [.listNodes, .restart "storage"] }) ∧
        (updateAddress? text.toList).map HostPort.split = some ⟨"fd00::5", some "19001"⟩ := by
  have noOpen : '[' ∉ "fd00::5".toList := by decide +kernel
  have noClose : ']' ∉ "fd00::5".toList := by decide +kernel
  have solid : Text.Solid "fd00::5".toList := by decide +kernel
  have trimmed : Text.Trimmed "fd00::5".toList := Text.trimmed_of_noBlank solid
  have digits : ∀ character ∈ "19001".toList, character.isDigit = true :=
    List.all_eq_true.mp (by decide +kernel)
  have loopback : sixMember.isLoopback = true := by decide +kernel
  have found : (HostPort.split sixMember.address).port = some "19001" := by decide +kernel
  have readsBack : ReadsBack "[fd00::5]:19001" := by decide +kernel
  obtain ⟨_, _, moves⟩ :=
    moveBootstrap_all_or_nothing Rehearsal.quiet sixStore noOpen noClose trimmed
  obtain ⟨_, ports⟩ := moves sixMember sixStore_listed loopback
  obtain ⟨told, text, toldOnly, ran, splits⟩ := (ports "19001" found).1 sixStore_accepts
  exact ⟨noOpen, noClose, trimmed, sixStore_listed, loopback, found, sixStore_accepts, readsBack,
    told, text, toldOnly, ran, splits digits readsBack⟩

end Membership
end ClusterAgent
