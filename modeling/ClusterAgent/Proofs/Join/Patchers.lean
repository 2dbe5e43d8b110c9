import Mathlib.Logic.Function.Basic
import Mathlib.Logic.Relation
import ClusterAgent.Proofs.Files.Renewing
import ClusterAgent.Proofs.Join.Parts
import ClusterAgent.Proofs.Node.Autodetection
import ClusterAgent.Proofs.Sparing
import ClusterAgent.Services.Kubectl
namespace ClusterAgent
namespace Patchers

open Running World Disk Autodetection

/-! ## Stages of a patch -/

/-- Where a call stands that patches the network manifest. From the stage `looking` on it holds
the lock of the manifest, until it has left; `seen` is the manifest that it read there. -/
inductive Stage
  | waiting
  | looking
  | writing (seen patched : String)
  | leaving (seen : Option String) (changed : Bool)
  | applying (seen : Option String)
  | returned (seen : Option String) (changed : Bool)
  | failed (error : FileError)
  deriving DecidableEq, Repr

namespace Stage

/-- Whether the call holds the lock. -/
def isInside : Stage → Bool
  | .looking => true
  | .writing _ _ => true
  | .leaving _ _ => true
  | _ => false

/-- Whether the call has changed the manifest. -/
def hasPatched : Stage → Bool
  | .leaving _ changed => changed
  | .applying _ => true
  | .returned _ changed => changed
  | _ => false

/-- Where a call goes that gives the lock back. -/
def left (apply : Bool) (seen : Option String) (changed : Bool) : Stage :=
  if changed && apply then .applying seen else .returned seen changed

end Stage

/-- One read or write of a call that holds the lock, and the stage that follows. -/
def act (host : String) : Stage → Step FileError Stage
  | .looking => do
      let place := Layout.networkManifest
      let disk ← get
      match ← ExceptT.adapt (FileError.reading (disk.shown place)) (readOptional place) with
      | none => return .leaving none false
      | some manifest =>
          match patchText manifest host with
          | none => return .leaving (some manifest) false
          | some patched => return .writing manifest patched
  | .writing seen patched => do
      let place := Layout.networkManifest
      let disk ← get
      ExceptT.adapt (FileError.writing (disk.shown place)) (writeAtomic place patched.toUTF8)
      return .leaving (some seen) true
  | stage => return stage

section Acting

variable {host seen patched : String} {before after : Disk} {next : Stage}

theorem run_looking (host : String) (disk : Disk) :
    (act host .looking).run disk =
      (match disk.textOf Layout.networkManifest with
        | .ok manifest =>
            match patchText manifest host with
            | none => .ok (.leaving (some manifest) false)
            | some patched => .ok (.writing manifest patched)
        | .error error =>
            if error = .notFound then .ok (.leaving none false)
            else .error (.reading (disk.shown Layout.networkManifest) error), disk) := by
  rw [act, run_bind, run_get]
  dsimp only
  rw [run_bind, run_adapt, run_readOptional]
  rcases disk.textOf Layout.networkManifest with error | manifest
  · by_cases missing : error = .notFound
    · simp only [missing, if_true]
      rfl
    · simp only [missing, if_false]
      rfl
  · dsimp only [Except.mapError]
    rcases patchText manifest host with _ | patched <;> rfl

theorem run_writing (host seen patched : String) (disk : Disk) :
    (act host (.writing seen patched)).run disk =
      match (writeAtomic Layout.networkManifest patched.toUTF8).run disk with
      | (.ok (), after) => (.ok (.leaving (some seen) true), after)
      | (.error error, after) =>
          (.error (.writing (disk.shown Layout.networkManifest) error), after) := by
  rw [act, run_bind, run_get]
  dsimp only
  rw [run_bind, run_adapt]
  rcases (writeAtomic Layout.networkManifest patched.toUTF8).run disk with ⟨_ | _, after⟩ <;> rfl

/-- A call that has looked writes next if the hint still was the first address found, and leaves
if not. -/
theorem act_looking_ok (ran : (act host .looking).run before = (.ok next, after)) :
    after = before ∧
      ((∃ seen, next = .leaving seen false ∧
          ∀ manifest ∈ seen, patchText manifest host = none) ∨
        ∃ seen patched, next = .writing seen patched ∧
          before.textOf Layout.networkManifest = .ok seen ∧
            patchText seen host = some patched) := by
  rw [run_looking] at ran
  obtain ⟨given, rfl⟩ := Prod.mk.inj ran
  refine ⟨rfl, ?_⟩
  rcases read : before.textOf Layout.networkManifest with error | manifest
  · rw [read] at given
    dsimp only at given
    split at given
    · cases given
      exact Or.inl ⟨none, rfl, by simp⟩
    · cases given
  · rw [read] at given
    dsimp only at given
    split at given
    · rename_i notPatched
      cases given
      refine Or.inl ⟨some manifest, rfl, ?_⟩
      rintro _ ⟨⟩
      exact notPatched
    · rename_i patched isPatched
      cases given
      exact Or.inr ⟨manifest, patched, rfl, rfl, isPatched⟩

theorem act_writing_ok (ran : (act host (.writing seen patched)).run before = (.ok next, after)) :
    next = .leaving (some seen) true ∧
      (writeAtomic Layout.networkManifest patched.toUTF8).run before = (.ok (), after) := by
  rw [run_writing] at ran
  split at ran
  · rename_i wrote
    cases ran
    exact ⟨rfl, wrote⟩
  · cases ran

theorem act_writing_error {error : FileError}
    (ran : (act host (.writing seen patched)).run before = (.error error, after)) :
    ∃ cause, (writeAtomic Layout.networkManifest patched.toUTF8).run before =
      (.error cause, after) := by
  rw [run_writing] at ran
  split at ran
  · cases ran
  · rename_i cause _ failed
    cases ran
    exact ⟨cause, failed⟩

/-- A patch of the file is these two steps. -/
theorem run_patchFile (host : String) (disk : Disk) :
    (patchFile host).run disk =
      (do
        let next ← act host .looking
        let last ← act host next
        return last.hasPatched : Step FileError Bool).run disk := by
  rw [patchFile, run_bind, run_get]
  dsimp only
  rw [run_bind, run_bind, run_adapt, run_readOptional, run_looking]
  rcases disk.textOf Layout.networkManifest with error | manifest
  · by_cases missing : error = .notFound
    · simp only [missing, if_true]
      rfl
    · simp only [missing, if_false]
      rfl
  · dsimp only [Except.mapError]
    rw [patchText]
    rcases patch manifest.toList host.toList with _ | patched
    · rfl
    · dsimp only [Option.map_some]
      rw [run_bind, run_bind, run_writing, run_adapt]
      rcases (writeAtomic Layout.networkManifest (String.ofList patched).toUTF8).run disk with
        ⟨_ | _, after⟩ <;> rfl

end Acting

/-! ## Calls that patch one manifest -/

/-- A node on which many calls patch the network manifest: its world, the call that holds the
lock and the stage of each call. -/
structure Calls (Caller : Type) where
  world : World
  holder : Option Caller
  stage : Caller → Stage

namespace Calls

variable {Caller : Type} [DecidableEq Caller] (state : Calls Caller) (caller : Caller)

/-- The state after one call has gone to a stage. -/
def going (world : World) (holder : Option Caller) (stage : Stage) : Calls Caller :=
  ⟨world, holder, Function.update state.stage caller stage⟩

@[simp] theorem stage_going (world : World) (holder : Option Caller) (stage : Stage) :
    (state.going caller world holder stage).stage caller = stage :=
  Function.update_self ..

theorem stage_going_of_ne {other : Caller} (different : other ≠ caller) (world : World)
    (holder : Option Caller) (stage : Stage) :
    (state.going caller world holder stage).stage other = state.stage other :=
  Function.update_of_ne different ..

@[simp] theorem going_going (world later : World) (holder laterHolder : Option Caller)
    (stage next : Stage) :
    (state.going caller world holder stage).going caller later laterHolder next =
      state.going caller later laterHolder next := by
  rw [going, going, Function.update_idem]
  rfl

end Calls

def isPush : Call → Bool
  | .apply _ => true
  | _ => false

/-- How often a manifest has been handed to the cluster. -/
def pushes (world : World) : Nat :=
  world.calls.countP isPush

/-- The manifest can be read, and replaced as often as anyone likes. -/
structure Serves (disk : Disk) : Prop where
  readable : disk.refuses .read Layout.networkManifest.names = none
  renewable : Renewable Layout.networkManifest disk

/-- Between the two worlds nobody wrote the manifest, and none was handed to the cluster. -/
structure Aside (before after : World) : Prop where
  spares : Spares Layout.networkManifest.names before after
  pushes : pushes after = pushes before
  serves : Serves before.disk → Serves after.disk

theorem aside_refl (world : World) : Aside world world :=
  ⟨spares_refl _ world, rfl, id⟩

theorem aside_trans {before middle after : World} (first : Aside before middle)
    (second : Aside middle after) : Aside before after :=
  ⟨spares_trans first.spares second.spares, second.pushes.trans first.pushes,
    second.serves ∘ first.serves⟩

instance : Std.Refl Aside :=
  ⟨aside_refl⟩

instance : Trans Aside Aside Aside :=
  ⟨aside_trans⟩

/-- The tool that hands a manifest to the cluster only runs a program. -/
theorem kubectl_aside (kubectl : Kubectl) (table : Programs.Table) (manifest : String) :
    Within Aside (kubectl.apply table manifest) := by
  refine within_adapt (Programs.runFirst_within (fun words => ?_) table _ _)
  refine within_modify fun world => ⟨calm_outside rfl rfl, ?_, id⟩
  simp [pushes, isPush]

section Stepping

variable {Caller : Type} [DecidableEq Caller] (surroundings : Surroundings)
  (host : Caller → String) (apply : Caller → Bool)

/-- One step of one call, or of anything else. A call reads and writes while it holds the lock,
gives it back whether it succeeds or not, and hands a changed manifest to the cluster without
it. -/
inductive Step : Calls Caller → Calls Caller → Prop
  | acquire {state : Calls Caller} {caller : Caller} (free : state.holder = none)
      (waiting : state.stage caller = .waiting) :
      Step state (state.going caller state.world (some caller) .looking)
  | advance {state : Calls Caller} {caller : Caller} {next : Stage} {after : Disk}
      (held : state.holder = some caller)
      (ran : (act (host caller) (state.stage caller)).run state.world.disk = (.ok next, after)) :
      Step state (state.going caller { state.world with disk := after } (some caller) next)
  | fail {state : Calls Caller} {caller : Caller} {error : FileError} {after : Disk}
      (held : state.holder = some caller)
      (ran : (act (host caller) (state.stage caller)).run state.world.disk =
        (.error error, after)) :
      Step state (state.going caller { state.world with disk := after } none (.failed error))
  | leave {state : Calls Caller} {caller : Caller} {seen : Option String} {changed : Bool}
      (held : state.holder = some caller) (leaving : state.stage caller = .leaving seen changed) :
      Step state (state.going caller state.world none (.left (apply caller) seen changed))
  | push {state : Calls Caller} {caller : Caller} {seen : Option String}
      {result : Except KubeError Unit} {after : World}
      (applying : state.stage caller = .applying seen)
      (ran : (surroundings.applyManifest (state.world.disk.shown Layout.networkManifest)).run
        state.world = (result, after)) :
      Step state (state.going caller after state.holder (.returned seen true))
  | meanwhile {state : Calls Caller} {after : World} (aside : Aside state.world after) :
      Step state { state with world := after }

end Stepping

/-- No call has begun, and no other process is going to write the manifest. -/
structure Begins {Caller : Type} (state : Calls Caller) : Prop where
  free : state.holder = none
  waiting : ∀ caller, state.stage caller = .waiting
  noneDue : NoneDue Layout.networkManifest.names state.world

/-! ## Calls one after another -/

section Alone

variable {Caller : Type} [DecidableEq Caller] {surroundings : Surroundings}
  {host : Caller → String} {apply : Caller → Bool} {state : Calls Caller} {caller : Caller}

/-- After its two steps a call is ready to leave, and knows the manifest that it read. -/
theorem leaving_of_acts {next last : Stage} {before middle done : Disk} {target : String}
    (looked : (act target .looking).run before = (.ok next, middle))
    (acted : (act target next).run middle = (.ok last, done)) :
    last = .leaving (before.textOf Layout.networkManifest).toOption last.hasPatched := by
  rw [run_looking] at looked
  obtain ⟨given, rfl⟩ := Prod.mk.inj looked
  split at given
  · rename_i manifest read
    rw [read]
    split at given
    · cases given
      cases acted
      rfl
    · cases given
      obtain ⟨rfl, _⟩ := act_writing_ok acted
      rfl
  · rename_i error read
    rw [read]
    split at given
    · cases given
      cases acted
      rfl
    · cases given

theorem step_advance {world : World} {stage next : Stage} {done : Disk}
    (ran : (act (host caller) stage).run world.disk = (.ok next, done)) :
    Step surroundings host apply (state.going caller world (some caller) stage)
      (state.going caller { world with disk := done } (some caller) next) := by
  have step : Step surroundings host apply (state.going caller world (some caller) stage)
      ((state.going caller world (some caller) stage).going caller { world with disk := done }
        (some caller) next) :=
    .advance rfl (by rw [Calls.stage_going]; exact ran)
  rwa [Calls.going_going] at step

theorem step_leave (world : World) (seen : Option String) (changed : Bool) :
    Step surroundings host apply
      (state.going caller world (some caller) (.leaving seen changed))
      (state.going caller world none (.left (apply caller) seen changed)) := by
  have step : Step surroundings host apply
      (state.going caller world (some caller) (.leaving seen changed))
      ((state.going caller world (some caller) (.leaving seen changed)).going caller world none
        (.left (apply caller) seen changed)) :=
    .leave rfl (Calls.stage_going ..)
  rwa [Calls.going_going] at step

theorem step_push {world after : World} {seen : Option String} {result : Except KubeError Unit}
    (ran : (surroundings.applyManifest (world.disk.shown Layout.networkManifest)).run world =
      (result, after)) :
    Step surroundings host apply (state.going caller world none (.applying seen))
      (state.going caller after none (.returned seen true)) := by
  have step : Step surroundings host apply (state.going caller world none (.applying seen))
      ((state.going caller world none (.applying seen)).going caller after none
        (.returned seen true)) :=
    .push (Calls.stage_going ..) ran
  rwa [Calls.going_going] at step

/-- A call that nobody interrupts patches the file by a run of its own, and has yet to hand the
manifest over. -/
theorem run_of_patchFile {changed : Bool} {done : Disk} (free : state.holder = none)
    (waiting : state.stage caller = .waiting)
    (ran : (patchFile (host caller)).run state.world.disk = (.ok changed, done)) :
    Relation.ReflTransGen (Step surroundings host apply) state
      (state.going caller { state.world with disk := done } none
        (.left (apply caller) (state.world.disk.textOf Layout.networkManifest).toOption
          changed)) := by
  rw [run_patchFile] at ran
  obtain ⟨next, middle, looked, ran⟩ := bind_ok ran
  obtain ⟨last, _, acted, ran⟩ := bind_ok ran
  have leaving := leaving_of_acts looked acted
  cases ran
  rw [leaving] at acted
  exact Relation.ReflTransGen.refl
    |>.tail (.acquire free waiting)
    |>.tail (step_advance looked)
    |>.tail (step_advance acted)
    |>.tail (step_leave ..)

/-- A call that nobody interrupts is a run of its own. -/
theorem run_of_patchManifest {changed : Bool} {world : World} (free : state.holder = none)
    (waiting : state.stage caller = .waiting)
    (ran : (Join.patchManifest surroundings (host caller) (apply caller)).run state.world =
      (.ok changed, world)) :
    Relation.ReflTransGen (Step surroundings host apply) state
      (state.going caller world none
        (.returned (state.world.disk.textOf Layout.networkManifest).toOption changed)) := by
  obtain ⟨patchedIt, patched, ranPatch, ran⟩ := bind_ok ran
  obtain ⟨ranFile, shape⟩ := onDisk_ran ranPatch
  have acting : Relation.ReflTransGen (Step surroundings host apply) state _ :=
    run_of_patchFile free waiting ranFile
  rw [← shape, Stage.left] at acting
  dsimp only at ran
  split at ran
  · rename_i handsOver
    rw [if_pos handsOver] at acting
    obtain ⟨_, _, fetched, ran⟩ := bind_ok ran
    cases fetched
    obtain ⟨_, _, handed, ran⟩ := bind_ok ran
    cases handed
    cases ran
    rw [(Bool.and_eq_true_iff.mp handsOver).1]
    exact acting.tail (step_push rfl)
  · rename_i keeps
    rw [if_neg keeps] at acting
    cases ran
    exact acting

end Alone

end Patchers
end ClusterAgent
