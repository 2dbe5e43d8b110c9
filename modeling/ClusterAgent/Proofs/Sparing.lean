import ClusterAgent.Proofs.Files.Footprint
import ClusterAgent.Rehearsal.Storage
import ClusterAgent.Services.Programs
namespace ClusterAgent

open Running

namespace World

/-! ## Files that are left alone -/

/-- No other process is going to write the file. -/
def NoneDue (names : List String) (world : World) : Prop :=
  ∀ delivery ∈ world.pending, delivery.names ≠ names

/-- The file is as it was, was not written in between and is not going to be. -/
structure Untouched (names : List String) (before after : World) : Prop where
  noneDue : NoneDue names after
  file : after.disk.fileAt? names = before.disk.fileAt? names
  timesWritten : after.disk.written.count names = before.disk.written.count names

/-- The file is left alone, unless another process is going to write it. -/
def Spares (names : List String) (before after : World) : Prop :=
  NoneDue names before → Untouched names before after

section Relation

variable {names : List String} {touched : List (List String)} {before middle after : World}

theorem spares_refl (names : List String) (world : World) : Spares names world world :=
  fun noneDue => ⟨noneDue, rfl, rfl⟩

theorem spares_trans (first : Spares names before middle) (second : Spares names middle after) :
    Spares names before after := by
  intro noneDue
  have earlier := first noneDue
  have later := second earlier.noneDue
  exact ⟨later.noneDue, later.file.trans earlier.file,
    later.timesWritten.trans earlier.timesWritten⟩

instance (names : List String) : Std.Refl (Spares names) :=
  ⟨spares_refl names⟩

instance (names : List String) : Trans (Spares names) (Spares names) (Spares names) :=
  ⟨spares_trans⟩

theorem count_written (changes : Disk.ChangesOnly touched before.disk after.disk)
    (apart : names ∉ touched) :
    after.disk.written.count names = before.disk.written.count names := by
  obtain ⟨fresh, written, included⟩ := changes.written
  have notFresh : names ∉ fresh := fun member => apart (included member)
  rw [written, List.count_append, List.count_eq_zero_of_not_mem notFresh, Nat.zero_add]

theorem spares_of_changes (changes : Disk.ChangesOnly touched before.disk after.disk)
    (apart : names ∉ touched) (pending : after.pending = before.pending) :
    Spares names before after := by
  intro noneDue
  refine ⟨?_, changes.fileAt? apart, count_written changes apart⟩
  rw [NoneDue, pending]
  exact noneDue

end Relation

/-! ## Deliveries of other processes -/

section Delivering

variable {names : List String}

theorem foldl_deliver_changes (deliveries : List Delivery) (disk : Disk) :
    Disk.ChangesOnly (deliveries.map Delivery.names) disk (deliveries.foldl deliver disk) := by
  induction deliveries generalizing disk with
  | nil => exact Disk.ChangesOnly.refl _ disk
  | cons delivery rest inductionHypothesis =>
      have first : Disk.ChangesOnly ((delivery :: rest).map Delivery.names) disk
          (deliver disk delivery) :=
        (deliver_changes disk delivery).mono (by simp)
      exact first.trans ((inductionHypothesis _).mono (List.subset_cons_self _ _))

theorem spares_settle (world : World) (time : Nat) : Spares names world (world.settle time) := by
  intro noneDue
  have apart : names ∉
      (world.pending.filter fun delivery => delivery.due ≤ time).map Delivery.names := by
    intro member
    obtain ⟨delivery, isDue, same⟩ := List.mem_map.mp member
    exact noneDue delivery (List.mem_filter.mp isDue).1 same
  have changes : Disk.ChangesOnly _ world.disk (world.settle time).disk :=
    foldl_deliver_changes _ world.disk
  refine ⟨fun delivery later => ?_, changes.fileAt? apart, count_written changes apart⟩
  exact noneDue delivery (List.mem_filter.mp later).1

end Delivering

/-! ## Changes that are kept apart from something -/

/-- The relation allows changes of entries that are `apart`, and time may pass. -/
class Calm (Change : World → World → Prop) extends Std.Refl Change where
  apart : List String → Prop
  trans : ∀ {first second third : World},
    Change first second → Change second third → Change first third
  changes : ∀ {touched : List (List String)} {before after : World},
    Disk.ChangesOnly touched before.disk after.disk → (∀ names ∈ touched, apart names) →
      after.pending = before.pending → Change before after
  settle : ∀ (world : World) (time : Nat), Change world (world.settle time)

/-- Every one of the entries may change by the relation. -/
def Clears (Change : World → World → Prop) [Calm Change] (touched : List (List String)) : Prop :=
  ∀ names ∈ touched, Calm.apart Change names

instance {Change : World → World → Prop} [Calm Change] : Trans Change Change Change :=
  ⟨Calm.trans⟩

instance calm_spares (names : List String) : Calm (Spares names) where
  apart := fun other => other ≠ names
  refl := spares_refl names
  trans := spares_trans
  changes := fun changes apart => spares_of_changes changes fun member => apart _ member rfl
  settle := spares_settle

theorem clears_spares {names : List String} {touched : List (List String)}
    (apart : names ∉ touched) : Clears (Spares names) touched :=
  fun _ member same => apart (same ▸ member)

section Activities

theorem within_tolerate {ε δ α : Type} {Change : World → World → Prop} {action : Activity ε α}
    (inner : Within Change action) : Within Change (tolerate action : Activity δ Unit) :=
  inner

variable {Change : World → World → Prop} [Calm Change] {touched : List (List String)}
  {ε α : Type}

theorem onDisk_calm {step : Disk.Step ε α} (changes : Within (Disk.ChangesOnly touched) step)
    (clear : Clears Change touched) : Within Change (onDisk step) :=
  fun world => Calm.changes (changes world.disk) clear rfl

theorem onDisk_still_calm {step : Disk.Step ε α} (still : Within Eq step) :
    Within Change (onDisk step) :=
  onDisk_calm (Disk.within_of_still still) fun _ member => absurd member List.not_mem_nil

/-- What happens outside the data directory changes nothing in it. -/
theorem calm_outside {before after : World} (disk : after.disk = before.disk)
    (pending : after.pending = before.pending) : Change before after :=
  Calm.changes (disk ▸ Disk.ChangesOnly.refl [] _) (fun _ member => absurd member List.not_mem_nil)
    pending

theorem call_calm (made : Call) : Within Change (call made : Activity ε Unit) :=
  within_modify fun _ => calm_outside rfl rfl

theorem drawToken_calm (surroundings : Surroundings) :
    Within Change (surroundings.drawToken : Activity ε String) :=
  fun _ => calm_outside rfl rfl

end Activities

end World

namespace Programs

/-- Looking for a program changes the world as far as running one does. -/
theorem runFirst_within {Change : World → World → Prop} [Std.Refl Change]
    [Trans Change Change Change]
    (runs : ∀ words, Within Change (World.call (.program words) : World.Activity String Unit))
    (table : Table) (arguments candidates : List String) :
    Within Change (runFirst table arguments candidates) := by
  induction candidates with
  | nil => exact within_throw _
  | cons name others inductionHypothesis =>
      rw [runFirst]
      split
      · exact inductionHypothesis
      · exact within_throw _
      · refine within_bind (runs _) fun _ => ?_
        split
        · exact within_pure _
        · exact within_throw _

end Programs

namespace Surroundings

open World

/-! ## Surroundings that leave a file alone -/

/-- Nothing that an agent meets outside its data directory touches the file. -/
structure LeaveAlone (surroundings : Surroundings) (names : List String) : Prop where
  restart : ∀ service, Within (Spares names) (surroundings.restart service)
  apply : ∀ manifest, Within (Spares names) (surroundings.apply manifest)
  listNodes : Within (Spares names) surroundings.listNodes

/-- What an agent meets outside its data directory changes the world by this relation only. -/
structure Obey (surroundings : Surroundings) (Change : World → World → Prop) : Prop where
  restart : ∀ service, Within Change (surroundings.restart service)
  apply : ∀ manifest, Within Change (surroundings.apply manifest)
  listNodes : Within Change surroundings.listNodes

theorem LeaveAlone.obey {surroundings : Surroundings} {names : List String}
    (leave : surroundings.LeaveAlone names) : surroundings.Obey (Spares names) :=
  ⟨leave.restart, leave.apply, leave.listNodes⟩

namespace Obey

variable {surroundings : Surroundings} {Change : World → World → Prop} [Calm Change]

theorem restartService (obey : surroundings.Obey Change) (service : String) :
    Within Change (surroundings.restartService service) :=
  within_bind (call_calm _) fun _ => obey.restart service

theorem applyManifest (obey : surroundings.Obey Change) (manifest : String) :
    Within Change (surroundings.applyManifest manifest) :=
  within_bind (call_calm _) fun _ => obey.apply manifest

theorem controlPlaneNodes (obey : surroundings.Obey Change) :
    Within Change surroundings.controlPlaneNodes :=
  within_bind (call_calm _) fun _ => obey.listNodes

end Obey

/-- A rehearsed store writes down its members and nothing else. -/
theorem storage_restart_spares {names : List String} (other : names ≠ Layout.membership.names)
    (storage : Rehearsal.Storage) (service : String) :
    Within (Spares names) (storage.restart service) := by
  cases storage with
  | fails details => exact within_throw _
  | ignores => exact within_pure ()
  | writes text delay =>
      refine within_modify fun world => ?_
      split
      · exact spares_refl names world
      · rename_i listing _
        refine spares_trans ?_ (spares_settle _ _)
        intro noneDue
        refine ⟨fun delivery member => ?_, rfl, rfl⟩
        rcases List.mem_append.mp member with earlier | added
        · exact noneDue delivery earlier
        · rw [List.mem_singleton.mp added]
          exact other.symm

theorem rehearsal_leaveAlone {names : List String} (other : names ≠ Layout.membership.names)
    (storage : Rehearsal.Storage) (cluster : Rehearsal.Cluster) :
    (Rehearsal.surroundings storage cluster).LeaveAlone names := by
  refine ⟨storage_restart_spares other storage, fun manifest => ?_, ?_⟩
  · change Within (Spares names) (cluster.apply manifest)
    rw [Rehearsal.Cluster.apply]
    split
    · exact within_throw _
    · exact within_pure ()
  · change Within (Spares names) cluster.listNodes
    rw [Rehearsal.Cluster.listNodes]
    split
    · exact within_throw _
    · exact within_pure _

end Surroundings
end ClusterAgent
