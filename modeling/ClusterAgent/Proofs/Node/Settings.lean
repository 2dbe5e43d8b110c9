import ClusterAgent.Proofs.Node.Flags
namespace ClusterAgent
namespace Flags

open Disk Running Text

/-! ## Flag files as maps -/

/-- What a reader gets for each flag text, which is "" where there is nothing. -/
abbrev Settings := String → String

def settings (service : String) (disk : Disk) : Settings :=
  fun flag => lookup service flag disk

/-- What one call changes in a flag file. -/
structure Revision where
  updates : Updates
  deletions : List String
  deriving DecidableEq, Repr

namespace Revision

def perform (service : String) (revision : Revision) : Step FileError Unit :=
  update service revision.updates revision.deletions

/-- The change as one of the map. A flag that is both deleted and updated is deleted. -/
def apply (known : Settings) (revision : Revision) : Settings :=
  fun flag =>
    if flag ∈ revision.deletions then ""
    else (revision.updates.lookup flag).getD (known flag)

end Revision

/-- The changes one after another, up to the first that fails. -/
def reviseAll (service : String) : List Revision → Step FileError Unit
  | [] => return ()
  | revision :: rest => do
      revision.perform service
      reviseAll service rest

/-! ## Runs of changes -/

section Runs

variable {service : String} {revision : Revision} {revisions front back : List Revision}
  {before after : Disk}

theorem settings_perform (writable : revision.updates.Writable)
    (ran : (revision.perform service).run before = (.ok (), after)) :
    settings service after = revision.apply (settings service before) :=
  funext (lookup_update writable ran)

theorem settings_reviseAll (writable : ∀ revision ∈ revisions, revision.updates.Writable)
    (ran : (reviseAll service revisions).run before = (.ok (), after)) :
    settings service after = revisions.foldl Revision.apply (settings service before) := by
  induction revisions generalizing before with
  | nil =>
      cases ran
      rfl
  | cons revision rest inductionHypothesis =>
      obtain ⟨firstWritable, restWritable⟩ := List.forall_mem_cons.mp writable
      obtain ⟨_, middle, first, later⟩ := bind_ok ran
      have step := settings_perform firstWritable first
      have run := inductionHypothesis restWritable later
      rw [run, step]
      rfl

theorem reviseAll_append (ran : (reviseAll service (front ++ back)).run before = (.ok (), after)) :
    ∃ middle,
      (reviseAll service front).run before = (.ok (), middle) ∧
        (reviseAll service back).run middle = (.ok (), after) := by
  induction front generalizing before with
  | nil => exact ⟨before, rfl, ran⟩
  | cons revision front inductionHypothesis =>
      obtain ⟨_, changed, first, later⟩ := bind_ok ran
      obtain ⟨middle, toMiddle, rest⟩ := inductionHypothesis later
      refine ⟨middle, ?_, rest⟩
      rw [reviseAll, run_bind, first]
      exact toMiddle

/-- A flag file refines a map from flag texts to values: in a run of successful changes each one
has on what is read the effect that it has on the map, whatever the file was at the start. A
change of nothing leaves everything as it is. -/
theorem flag_file_refines_map (writable : ∀ revision ∈ revisions, revision.updates.Writable)
    (ran : (reviseAll service revisions).run before = (.ok (), after)) :
    (∀ front revision back, revisions = front ++ revision :: back →
      ∃ earlier later,
        (reviseAll service front).run before = (.ok (), earlier) ∧
          (revision.perform service).run earlier = (.ok (), later) ∧
          (reviseAll service back).run later = (.ok (), after) ∧
          settings service earlier = front.foldl Revision.apply (settings service before) ∧
          settings service later = revision.apply (settings service earlier)) ∧
      settings service after = revisions.foldl Revision.apply (settings service before) ∧
      ∀ disk, (update service [] []).run disk = (.ok (), disk) := by
  refine ⟨?_, settings_reviseAll writable ran, fun _ => rfl⟩
  rintro front revision back rfl
  obtain ⟨frontWritable, others⟩ := List.forall_mem_append.mp writable
  obtain ⟨revisionWritable, _⟩ := List.forall_mem_cons.mp others
  obtain ⟨earlier, toEarlier, following⟩ := reviseAll_append ran
  obtain ⟨_, later, toLater, toAfter⟩ := bind_ok following
  exact ⟨earlier, later, toEarlier, toLater, toAfter, settings_reviseAll frontWritable toEarlier,
    settings_perform revisionWritable toLater⟩

end Runs

/-! ## A run on a file with odd lines -/

/-- The file has a flag in both forms, a flag that others start with, two flags on one line and
a last line that is not ended. -/
def flagged : Disk :=
  { Disk.empty "/data" with
    entries :=
      [(["args"], .directory),
        (["args", "kubelet"],
          .file "  --v 2\r\n--v=3\n\n--v-more --cloud=a=b\r\n# --v\n--cloud".toUTF8 false)] }

/-- The second call changes nothing; the third deletes a flag that it also updates. -/
def sampleRevisions : List Revision :=
  [⟨[("--label", "x=y"), ("--v", "")], ["--cloud"]⟩, ⟨[], []⟩,
    ⟨[("--cloud", "c"), ("--label", "z")], ["--label", "--v-more"]⟩]

theorem sampleRevisions_refine_map :
    (∀ revision ∈ sampleRevisions, revision.updates.Writable) ∧
      (reviseAll "kubelet" sampleRevisions).run flagged =
        (.ok (), ((reviseAll "kubelet" sampleRevisions).run flagged).2) ∧
      settings "kubelet" ((reviseAll "kubelet" sampleRevisions).run flagged).2 =
        sampleRevisions.foldl Revision.apply (settings "kubelet" flagged) := by
  have writable : ∀ revision ∈ sampleRevisions, revision.updates.Writable := by
    decide +kernel
  have ran : (reviseAll "kubelet" sampleRevisions).run flagged =
      (.ok (), ((reviseAll "kubelet" sampleRevisions).run flagged).2) :=
    run_of_toOption (by decide +kernel)
  exact ⟨writable, ran, (flag_file_refines_map writable ran).2.1⟩

end Flags
end ClusterAgent
