import Mathlib.Data.List.Nodup
import Mathlib.Data.List.Pairwise
import ClusterAgent.Proofs.Join.Patchers
namespace ClusterAgent
namespace Patchers

open Running World Disk Autodetection

/-! ## The manifest on a disk -/

def manifest? (disk : Disk) : Option String := do
  let (content, _) ← disk.fileAt? Layout.networkManifest.names
  (Utf8.decode content).toOption

section Manifest

variable {before after : Disk} {text : String}

theorem manifest?_of_file (same : after.fileAt? Layout.networkManifest.names =
    before.fileAt? Layout.networkManifest.names) : manifest? after = manifest? before := by
  rw [manifest?, manifest?, same]

theorem manifest?_of_textOf (read : before.textOf Layout.networkManifest = .ok text) :
    manifest? before = some text := by
  obtain ⟨content, isPrivate, found, decoded⟩ := textOf_ok read
  obtain ⟨_, _, _, entry⟩ := find_file_iff.mp found
  rw [manifest?, fileAt?_of_entry entry]
  simp [decoded, Except.toOption]

theorem manifest?_of_writeAtomic
    (wrote : (writeAtomic Layout.networkManifest text.toUTF8).run before = (.ok (), after)) :
    manifest? after = some text := by
  obtain ⟨⟨isPrivate, entry⟩, _⟩ := writeAtomic_ok wrote
  have decoded : (Utf8.decode text.toUTF8).toOption = some text := by
    rw [Utf8.decode_toUTF8]
    rfl
  rw [manifest?, fileAt?_of_entry entry]
  exact decoded

theorem file_of_writeAtomic_failed {error : IoError}
    (failed : (writeAtomic Layout.networkManifest text.toUTF8).run before = (.error error, after)) :
    after.fileAt? Layout.networkManifest.names = before.fileAt? Layout.networkManifest.names :=
  (writeAtomic_failed failed).fileAt? (by decide)

/-- The manifest on the one disk became that on the other when hosts were patched in, one after
another. Where there was none of them, the file is as it was. -/
inductive PatchedIn (before after : Disk) : List String → Prop
  | untouched (file : after.fileAt? Layout.networkManifest.names =
      before.fileAt? Layout.networkManifest.names) : PatchedIn before after []
  | patched {text final : String} {hosts : List String} (stood : manifest? before = some text)
      (stands : manifest? after = some final) (all : patchAll text hosts = some final) :
      PatchedIn before after hosts

namespace PatchedIn

variable {middle : Disk} {hosts : List String}

theorem of_file (patchedIn : PatchedIn before middle hosts)
    (same : after.fileAt? Layout.networkManifest.names =
      middle.fileAt? Layout.networkManifest.names) : PatchedIn before after hosts := by
  cases patchedIn with
  | untouched file => exact .untouched (same.trans file)
  | patched stood stands all => exact .patched stood ((manifest?_of_file same).trans stands) all

theorem concat {host seen patched : String} (patchedIn : PatchedIn before middle hosts)
    (stands : manifest? middle = some seen) (isPatched : patchText seen host = some patched)
    (written : manifest? after = some patched) : PatchedIn before after (hosts ++ [host]) := by
  have reached : ∃ text, manifest? before = some text ∧ patchAll text hosts = some seen := by
    cases patchedIn with
    | untouched file => exact ⟨seen, (manifest?_of_file file).symm.trans stands, rfl⟩
    | patched stood stoodLater all =>
        rw [stands] at stoodLater
        cases stoodLater
        exact ⟨_, stood, all⟩
  obtain ⟨text, stood, all⟩ := reached
  refine .patched stood written ?_
  rw [patchAll_concat, all]
  exact isPatched

theorem perm {order : List String} (patchedIn : PatchedIn before after hosts)
    (noHint : ∀ host ∈ hosts, 'I' ∉ host.toList) (perm : hosts.Perm order) :
    PatchedIn before after order := by
  cases patchedIn with
  | untouched file =>
      rw [perm.nil_eq.symm]
      exact .untouched file
  | patched stood stands all => exact .patched stood stands (patchAll_perm perm noHint _ ▸ all)

theorem hints_pairwise (patchedIn : PatchedIn before after hosts)
    (noHint : ∀ host ∈ hosts, 'I' ∉ host.toList) :
    hosts.Pairwise fun host other => hintFor host.toList ≠ hintFor other.toList := by
  cases patchedIn with
  | untouched file => exact List.Pairwise.nil
  | patched stood stands all => exact Autodetection.hints_pairwise noHint all

end PatchedIn

end Manifest

/-! ## What calls know -/

/-- The answer of a call to the manifest that it read. -/
def Tells (host : String) (seen : Option String) (changed : Bool) : Prop :=
  changed = true ↔ ∃ manifest ∈ seen, StillFirstFound host manifest

namespace Stage

/-- Whether the call has answered that it changed the manifest. -/
def hasChanged : Stage → Bool
  | .returned _ changed => changed
  | _ => false

/-- What a call knows of the manifest on the disk, or of the one that it read. -/
def Agrees (host : String) (apply : Bool) (disk : Disk) : Stage → Prop
  | .writing seen patched => manifest? disk = some seen ∧ patchText seen host = some patched
  | .leaving seen changed => Tells host seen changed
  | .applying seen => apply = true ∧ Tells host seen true
  | .returned seen changed => Tells host seen changed
  | _ => True

section Agreeing

variable {host : String} {apply : Bool} {before after : Disk} {stage : Stage}

theorem Agrees.of_manifest (agrees : stage.Agrees host apply before)
    (same : manifest? after = manifest? before) : stage.Agrees host apply after := by
  cases stage with
  | writing seen patched => exact ⟨same.trans agrees.1, agrees.2⟩
  | _ => exact agrees

theorem Agrees.of_outside (agrees : stage.Agrees host apply before)
    (outside : stage.isInside = false) (after : Disk) : stage.Agrees host apply after := by
  cases stage with
  | writing seen patched => cases outside
  | _ => exact agrees

theorem agrees_left {seen : Option String} {changed : Bool} (tells : Tells host seen changed)
    (disk : Disk) : (left apply seen changed).Agrees host apply disk := by
  rw [left]
  split
  · rename_i handsOver
    obtain ⟨rfl, applies⟩ := Bool.and_eq_true_iff.mp handsOver
    exact ⟨applies, tells⟩
  · exact tells

/-- A call that has looked knows whether its hint still had the first method. -/
theorem agrees_of_looking
    (ran : (act host .looking).run before = (.ok stage, after)) :
    stage.isInside = true ∧ stage.hasPatched = false ∧ stage.hasChanged = false ∧
      stage.Agrees host apply before := by
  obtain ⟨_, ⟨seen, rfl, notPatched⟩ | ⟨seen, patched, rfl, read, isPatched⟩⟩ :=
    act_looking_ok ran
  · refine ⟨rfl, rfl, rfl, ?_⟩
    simp only [Agrees, Tells, Bool.false_eq_true, false_iff]
    rintro ⟨manifest, isSeen, still⟩
    have patches := stillFirstFound_iff.mp still
    rw [notPatched manifest isSeen] at patches
    cases patches
  · exact ⟨rfl, rfl, rfl, manifest?_of_textOf read, isPatched⟩

end Agreeing

end Stage

/-- What holds of calls that began in `first`, where `winners` have patched the manifest in this
order, and `pushed` have handed it to the cluster. -/
structure Sound {Caller : Type} (host : Caller → String) (apply : Caller → Bool)
    (first state : Calls Caller) (winners pushed : List Caller) : Prop where
  noneDue : NoneDue Layout.networkManifest.names state.world
  manifest : PatchedIn first.world.disk state.world.disk (winners.map host)
  winnersNodup : winners.Nodup
  patchers : ∀ caller, caller ∈ winners ↔ (state.stage caller).hasPatched = true
  pushedNodup : pushed.Nodup
  handed : ∀ caller, caller ∈ pushed ↔
    apply caller = true ∧ (state.stage caller).hasChanged = true
  pushes : pushes state.world = Patchers.pushes first.world + pushed.length
  inside : ∀ caller, state.holder = some caller ↔ (state.stage caller).isInside = true
  agrees : ∀ caller, (state.stage caller).Agrees (host caller) (apply caller) state.world.disk

theorem sound_of_begins {Caller : Type} {host : Caller → String} {apply : Caller → Bool}
    {first : Calls Caller} (begins : Begins first) : Sound host apply first first [] [] := by
  have waiting (caller : Caller) := begins.waiting caller
  refine ⟨begins.noneDue, .untouched rfl, List.nodup_nil, ?_, List.nodup_nil, ?_, rfl, ?_, ?_⟩
  · simp [waiting, Stage.hasPatched]
  · simp [waiting, Stage.hasChanged]
  · simp [waiting, Stage.isInside, begins.free]
  · intro caller
    rw [waiting]
    trivial

namespace Sound

variable {Caller : Type} [DecidableEq Caller] {host : Caller → String} {apply : Caller → Bool}
  {first state : Calls Caller} {winners pushed : List Caller} {caller : Caller} {world : World}
  {holder : Option Caller} {next : Stage}

/-- What holds of one call at its new stage and of the others as before holds of all. -/
theorem forall_going (Good : Caller → Stage → Prop) (here : Good caller next)
    (others : ∀ other, other ≠ caller → Good other (state.stage other)) (other : Caller) :
    Good other ((state.going caller world holder next).stage other) := by
  by_cases same : other = caller
  · subst same
    rw [Calls.stage_going]
    exact here
  · rw [Calls.stage_going_of_ne _ _ same]
    exact others other same

theorem inside_held (sound : Sound host apply first state winners pushed)
    (free : ∀ other, state.holder = some other → other = caller) (inside : next.isInside = true) :
    ∀ other, some caller = some other ↔
      ((state.going caller world (some caller) next).stage other).isInside = true := by
  refine forall_going (fun other stage => some caller = some other ↔ stage.isInside = true)
    (by simp [inside]) fun other different => ?_
  have notHolder : state.holder ≠ some other := fun holds => different (free other holds)
  simp only [← sound.inside other, notHolder, iff_false]
  exact fun same => different (Option.some.inj same).symm

theorem inside_left (sound : Sound host apply first state winners pushed)
    (held : state.holder = some caller) (outside : next.isInside = false) :
    ∀ other, none = some other ↔
      ((state.going caller world none next).stage other).isInside = true := by
  refine forall_going (fun other stage => none = some other ↔ stage.isInside = true)
    (by simp [outside]) fun other different => ?_
  rw [← sound.inside other, held]
  simp [different.symm]

/-- A call that leaves the manifest alone goes on. -/
theorem goOn (sound : Sound host apply first state winners pushed)
    (aside : world.disk.fileAt? Layout.networkManifest.names =
      state.world.disk.fileAt? Layout.networkManifest.names)
    (noneDue : NoneDue Layout.networkManifest.names world)
    (pushes : Patchers.pushes world = Patchers.pushes state.world)
    (patched : next.hasPatched = (state.stage caller).hasPatched)
    (changed : apply caller = true → next.hasChanged = (state.stage caller).hasChanged)
    (inside : ∀ other, holder = some other ↔
      ((state.going caller world holder next).stage other).isInside = true)
    (agrees : next.Agrees (host caller) (apply caller) world.disk) :
    Sound host apply first (state.going caller world holder next) winners pushed := by
  have same := manifest?_of_file aside
  refine ⟨noneDue, sound.manifest.of_file aside, sound.winnersNodup, ?_, sound.pushedNodup, ?_,
    pushes.trans sound.pushes, inside, ?_⟩
  · refine forall_going (fun other stage => other ∈ winners ↔ stage.hasPatched = true) ?_
      fun other _ => sound.patchers other
    rw [patched]
    exact sound.patchers caller
  · refine forall_going (fun other stage => other ∈ pushed ↔
      apply other = true ∧ stage.hasChanged = true) ?_ fun other _ => sound.handed other
    rw [sound.handed caller]
    exact and_congr_right fun applies => by rw [changed applies]
  · exact forall_going (fun other stage => stage.Agrees (host other) (apply other) world.disk)
      agrees fun other _ => (sound.agrees other).of_manifest same

/-- A call that writes is the next that has patched the manifest. -/
theorem patch {seen patched : String} {after : Disk}
    (sound : Sound host apply first state winners pushed) (held : state.holder = some caller)
    (writing : state.stage caller = .writing seen patched)
    (wrote : (writeAtomic Layout.networkManifest patched.toUTF8).run state.world.disk =
      (.ok (), after)) :
    Sound host apply first
      (state.going caller { state.world with disk := after } (some caller)
        (.leaving (some seen) true))
      (winners ++ [caller]) pushed := by
  obtain ⟨stands, isPatched⟩ : manifest? state.world.disk = some seen ∧
      patchText seen (host caller) = some patched := by
    have agrees := sound.agrees caller
    rwa [writing] at agrees
  have notYet : caller ∉ winners := by
    rw [sound.patchers caller, writing]
    exact Bool.false_ne_true
  have notPushed : caller ∉ pushed := by
    rw [sound.handed caller, writing]
    exact fun changed => Bool.false_ne_true changed.2
  have alone (other : Caller) (holds : state.holder = some other) : other = caller :=
    Option.some.inj (holds.symm.trans held)
  refine ⟨sound.noneDue, ?_, ?_, ?_, sound.pushedNodup, ?_, sound.pushes,
    sound.inside_held alone rfl, ?_⟩
  · rw [List.map_append, List.map_singleton]
    exact sound.manifest.concat stands isPatched (manifest?_of_writeAtomic wrote)
  · rw [← List.concat_eq_append]
    exact sound.winnersNodup.concat notYet
  · refine forall_going (fun other stage => other ∈ winners ++ [caller] ↔ stage.hasPatched = true)
      (by simp [Stage.hasPatched]) fun other different => ?_
    simp [different, sound.patchers other]
  · refine forall_going (fun other stage => other ∈ pushed ↔
      apply other = true ∧ stage.hasChanged = true) (by simp [notPushed, Stage.hasChanged])
      fun other _ => sound.handed other
  · have still : StillFirstFound (host caller) seen :=
      stillFirstFound_iff.mpr (Option.isSome_iff_exists.mpr ⟨patched, isPatched⟩)
    refine forall_going (fun other stage => stage.Agrees (host other) (apply other) after)
      (iff_of_true rfl ⟨seen, rfl, still⟩) fun other different => ?_
    -- Only the call with the lock knows what stands on the disk.
    have outside : (state.stage other).isInside = false := by
      rw [← Bool.not_eq_true, ← sound.inside other]
      exact fun holds => different (alone other holds)
    exact (sound.agrees other).of_outside outside after

/-- A call that hands the manifest to the cluster has changed it, whatever the cluster says. -/
theorem push {seen : Option String} (sound : Sound host apply first state winners pushed)
    (applying : state.stage caller = .applying seen)
    (aside : world.disk.fileAt? Layout.networkManifest.names =
      state.world.disk.fileAt? Layout.networkManifest.names)
    (noneDue : NoneDue Layout.networkManifest.names world)
    (pushes : Patchers.pushes world = Patchers.pushes state.world + 1) :
    Sound host apply first (state.going caller world state.holder (.returned seen true)) winners
      (caller :: pushed) := by
  have same := manifest?_of_file aside
  obtain ⟨applies, tells⟩ : apply caller = true ∧ Tells (host caller) seen true := by
    have agrees := sound.agrees caller
    rwa [applying] at agrees
  have notYet : caller ∉ pushed := by
    rw [sound.handed caller, applying]
    exact fun changed => Bool.false_ne_true changed.2
  refine ⟨noneDue, sound.manifest.of_file aside, sound.winnersNodup, ?_,
    List.nodup_cons.mpr ⟨notYet, sound.pushedNodup⟩, ?_, ?_, ?_, ?_⟩
  · refine forall_going (fun other stage => other ∈ winners ↔ stage.hasPatched = true) ?_
      fun other _ => sound.patchers other
    rw [sound.patchers caller, applying]
    rfl
  · refine forall_going (fun other stage => other ∈ caller :: pushed ↔
      apply other = true ∧ stage.hasChanged = true) (by simp [applies, Stage.hasChanged])
      fun other different => ?_
    rw [List.mem_cons, ← sound.handed other]
    simp [different]
  · rw [List.length_cons, ← Nat.add_assoc, ← sound.pushes]
    exact pushes
  · refine forall_going (fun other stage => state.holder = some other ↔ stage.isInside = true) ?_
      fun other _ => sound.inside other
    rw [sound.inside caller, applying]
    rfl
  · exact forall_going (fun other stage => stage.Agrees (host other) (apply other) world.disk) tells
      fun other _ => (sound.agrees other).of_manifest same

end Sound

/-! ## Steps and runs -/

section Running

variable {Caller : Type} [DecidableEq Caller] {surroundings : Surroundings}
  {host : Caller → String} {apply : Caller → Bool} {first state later : Calls Caller}
  {winners pushed : List Caller}

/-- Handing a manifest to the cluster counts once, and leaves the manifest alone. -/
theorem applyManifest_aside {before after : World} {manifest : String}
    {result : Except KubeError Unit}
    (quiet : ∀ manifest, Within Aside (surroundings.apply manifest))
    (ran : (surroundings.applyManifest manifest).run before = (result, after)) :
    Spares Layout.networkManifest.names before after ∧ pushes after = pushes before + 1 ∧
      (Serves before.disk → Serves after.disk) := by
  have aside : Aside { before with calls := before.calls ++ [.apply manifest] } after :=
    (quiet manifest).reaches ran
  have called : Spares Layout.networkManifest.names before
      { before with calls := before.calls ++ [.apply manifest] } :=
    calm_outside rfl rfl
  refine ⟨spares_trans called aside.spares, aside.pushes.trans ?_, aside.serves⟩
  simp [pushes, isPush]

/-- A call that acts while it holds the lock has patched the manifest with that step, or not. -/
theorem sound_advance {caller : Caller} {next : Stage} {after : Disk}
    (sound : Sound host apply first state winners pushed) (held : state.holder = some caller)
    (ran : (act (host caller) (state.stage caller)).run state.world.disk = (.ok next, after)) :
    ∃ winners, Sound host apply first
      (state.going caller { state.world with disk := after } (some caller) next)
      winners pushed := by
  have inside := (sound.inside caller).mp held
  have alone (other : Caller) (holds : state.holder = some other) : other = caller :=
    Option.some.inj (holds.symm.trans held)
  cases stage : state.stage caller with
  | looking =>
      rw [stage] at ran
      obtain ⟨isInside, notPatched, notChanged, agrees⟩ := Stage.agrees_of_looking ran
      obtain ⟨rfl, _⟩ := act_looking_ok ran
      refine ⟨winners, sound.goOn rfl sound.noneDue rfl ?_ (fun _ => ?_)
        (sound.inside_held alone isInside) agrees⟩
      · rw [notPatched, stage]
        rfl
      · rw [notChanged, stage]
        rfl
  | writing seen patched =>
      rw [stage] at ran
      obtain ⟨rfl, wrote⟩ := act_writing_ok ran
      exact ⟨winners ++ [caller], sound.patch held stage wrote⟩
  | leaving seen changed =>
      rw [stage] at ran
      cases ran
      have agrees := sound.agrees caller
      rw [stage] at agrees
      refine ⟨winners, sound.goOn rfl sound.noneDue rfl ?_ (fun _ => ?_)
        (sound.inside_held alone rfl) agrees⟩
      · rw [stage]
      · rw [stage]
  | _ =>
      rw [stage] at inside
      cases inside

theorem sound_fail {caller : Caller} {error : FileError} {after : Disk}
    (sound : Sound host apply first state winners pushed) (held : state.holder = some caller)
    (ran : (act (host caller) (state.stage caller)).run state.world.disk = (.error error, after)) :
    Sound host apply first
      (state.going caller { state.world with disk := after } none (.failed error))
      winners pushed := by
  have inside := (sound.inside caller).mp held
  obtain ⟨aside, notPatched, notChanged⟩ :
      after.fileAt? Layout.networkManifest.names =
          state.world.disk.fileAt? Layout.networkManifest.names ∧
        (state.stage caller).hasPatched = false ∧ (state.stage caller).hasChanged = false := by
    cases stage : state.stage caller with
    | looking =>
        rw [stage, run_looking] at ran
        obtain ⟨_, rfl⟩ := Prod.mk.inj ran
        exact ⟨rfl, rfl, rfl⟩
    | writing seen patched =>
        rw [stage] at ran
        obtain ⟨cause, failed⟩ := act_writing_error ran
        exact ⟨file_of_writeAtomic_failed failed, rfl, rfl⟩
    | leaving seen changed =>
        rw [stage] at ran
        cases ran
    | _ =>
        rw [stage] at inside
        cases inside
  exact sound.goOn aside sound.noneDue rfl notPatched.symm (fun _ => notChanged.symm)
    (sound.inside_left held rfl) trivial

theorem sound_leave {caller : Caller} {seen : Option String} {changed : Bool}
    (sound : Sound host apply first state winners pushed) (held : state.holder = some caller)
    (leaving : state.stage caller = .leaving seen changed) :
    Sound host apply first
      (state.going caller state.world none (.left (apply caller) seen changed))
      winners pushed := by
  have tells : Tells (host caller) seen changed := by
    have agrees := sound.agrees caller
    rwa [leaving] at agrees
  have outside : (Stage.left (apply caller) seen changed).isInside = false := by
    rw [Stage.left]
    split <;> rfl
  refine sound.goOn rfl sound.noneDue rfl ?_ (fun applies => ?_) (sound.inside_left held outside)
    (Stage.agrees_left tells _)
  · rw [leaving, Stage.left]
    cases changed <;> cases apply caller <;> rfl
  · rw [leaving, Stage.left, applies]
    cases changed <;> rfl

/-- Every step keeps what holds of the calls. -/
theorem sound_step (quiet : ∀ manifest, Within Aside (surroundings.apply manifest))
    (step : Step surroundings host apply state later)
    (sound : Sound host apply first state winners pushed) :
    ∃ winners pushed, Sound host apply first later winners pushed := by
  cases step with
  | @acquire caller free waiting =>
      refine ⟨winners, pushed, sound.goOn rfl sound.noneDue rfl ?_ (fun _ => ?_)
        (sound.inside_held (fun other holds => ?_) rfl) trivial⟩
      · rw [waiting]
        rfl
      · rw [waiting]
        rfl
      · cases free.symm.trans holds
  | advance held ran =>
      obtain ⟨winners, sound⟩ := sound_advance sound held ran
      exact ⟨winners, pushed, sound⟩
  | fail held ran => exact ⟨winners, pushed, sound_fail sound held ran⟩
  | leave held leaving => exact ⟨winners, pushed, sound_leave sound held leaving⟩
  | @push caller seen result after applying ran =>
      obtain ⟨spares, counts, _⟩ := applyManifest_aside quiet ran
      have untouched := spares sound.noneDue
      exact ⟨winners, caller :: pushed,
        sound.push applying untouched.file untouched.noneDue counts⟩
  | meanwhile aside =>
      have untouched := aside.spares sound.noneDue
      have same := manifest?_of_file untouched.file
      exact ⟨winners, pushed, untouched.noneDue, sound.manifest.of_file untouched.file,
        sound.winnersNodup, sound.patchers, sound.pushedNodup, sound.handed,
        aside.pushes.trans sound.pushes, sound.inside,
        fun caller => (sound.agrees caller).of_manifest same⟩

theorem sound_of_run (quiet : ∀ manifest, Within Aside (surroundings.apply manifest))
    (begins : Begins first)
    (run : Relation.ReflTransGen (Step surroundings host apply) first later) :
    ∃ winners pushed, Sound host apply first later winners pushed := by
  induction run with
  | refl => exact ⟨[], [], sound_of_begins begins⟩
  | tail _ step inductionHypothesis =>
      obtain ⟨winners, pushed, sound⟩ := inductionHypothesis
      exact sound_step quiet step sound

/-! ## Manifests that can always be replaced -/

theorem act_looking_serves {disk : Disk} (serves : Serves disk) (target : String) :
    ∃ next, (act target .looking).run disk = (.ok next, disk) := by
  obtain ⟨text, isPrivate, file⟩ := serves.renewable.file
  have stored : disk.Stores Layout.networkManifest text :=
    ⟨serves.renewable.way, isPrivate, file⟩
  have read := stored.textOf rfl serves.renewable.nonempty serves.readable
  rw [run_looking, read]
  dsimp only
  rcases patchText text target with _ | patched
  · exact ⟨_, rfl⟩
  · exact ⟨_, rfl⟩

theorem serves_of_writeAtomic {before after : Disk} {text : String} (serves : Serves before)
    (wrote : (writeAtomic Layout.networkManifest text.toUTF8).run before = (.ok (), after)) :
    Serves after := by
  have changes : ChangesOnly
      [Layout.networkManifest.names, Layout.networkManifest.temporary] before after :=
    (writeAtomic_within _ (by simp) (by simp)).reaches wrote
  refine ⟨?_, renewable_of_writeAtomic wrote⟩
  rw [changes.refuses]
  exact serves.readable

/-- No call acts in vain on a manifest that can be read and replaced. -/
theorem act_serves (target : String) (stage : Stage) : Works Serves (act target stage) := by
  intro disk serves
  cases stage with
  | looking =>
      obtain ⟨next, looked⟩ := act_looking_serves serves target
      exact ⟨next, disk, looked, serves⟩
  | writing seen patched =>
      obtain ⟨_, after, wrote, _⟩ := writeAtomic_renews Layout.networkManifest patched disk
        serves.renewable
      refine ⟨.leaving (some seen) true, after, ?_, serves_of_writeAtomic serves wrote⟩
      rw [run_writing, wrote]
  | _ => exact ⟨_, disk, rfl, serves⟩

/-- A call that succeeds in acting has not failed with it. -/
theorem act_notFailed {target : String} {stage next : Stage} {before after : Disk}
    (ran : (act target stage).run before = (.ok next, after))
    (notFailed : ∀ error, stage ≠ .failed error) (error : FileError) : next ≠ .failed error := by
  cases stage with
  | looking =>
      obtain ⟨_, ⟨_, rfl, _⟩ | ⟨_, _, rfl, _⟩⟩ := act_looking_ok ran
      · simp
      · simp
  | writing seen patched =>
      obtain ⟨rfl, _⟩ := act_writing_ok ran
      simp
  | _ =>
      cases ran
      exact notFailed error

/-- The manifest can be replaced, and no call has failed. -/
structure Serving (state : Calls Caller) : Prop where
  serves : Serves state.world.disk
  noFailure : ∀ caller error, state.stage caller ≠ .failed error

theorem Serving.going {caller : Caller} {world : World} {holder : Option Caller} {next : Stage}
    (serving : Serving state) (serves : Serves world.disk)
    (notFailed : ∀ error, next ≠ .failed error) :
    Serving (state.going caller world holder next) :=
  ⟨serves, Sound.forall_going (fun _ stage => ∀ error, stage ≠ .failed error) notFailed
    fun other _ => serving.noFailure other⟩

theorem serving_step (quiet : ∀ manifest, Within Aside (surroundings.apply manifest))
    (step : Step surroundings host apply state later) (serving : Serving state) :
    Serving later := by
  cases step with
  | acquire free waiting => exact serving.going serving.serves fun _ => by simp
  | @advance caller next after held ran =>
      obtain ⟨_, _, worked, serves⟩ :=
        act_serves (host caller) (state.stage caller) state.world.disk serving.serves
      cases ran.symm.trans worked
      exact serving.going serves (act_notFailed ran (serving.noFailure caller))
  | @fail caller error after held ran =>
      obtain ⟨_, _, worked, _⟩ :=
        act_serves (host caller) (state.stage caller) state.world.disk serving.serves
      cases ran.symm.trans worked
  | @leave caller seen changed held leaving =>
      refine serving.going serving.serves fun error => ?_
      rw [Stage.left]
      split <;> simp
  | push applying ran =>
      exact serving.going ((applyManifest_aside quiet ran).2.2 serving.serves) fun _ => by simp
  | meanwhile aside => exact ⟨aside.serves serving.serves, serving.noFailure⟩

theorem serving_of_run (quiet : ∀ manifest, Within Aside (surroundings.apply manifest))
    (run : Relation.ReflTransGen (Step surroundings host apply) first later)
    (serving : Serving first) : Serving later := by
  induction run with
  | refl => exact serving
  | tail _ step inductionHypothesis => exact serving_step quiet step inductionHypothesis

/-! ## Patched once for each family -/

/-- What many calls that patch one manifest come to, with the addresses for which they do. -/
structure PatchedOnce (surroundings : Surroundings) (host : Caller → String)
    (address : Caller → IpAddress) (apply : Caller → Bool) (first last : Calls Caller) : Prop where
  /-- Among the calls for addresses of a family one at most changes the manifest. -/
  once : ∀ one other, (last.stage one).hasPatched = true → (last.stage other).hasPatched = true →
    (address one).width = (address other).width → one = other
  /-- A call answers that it changed the manifest if the hint of its family still had its first
  method when the call read the manifest under the lock, and only then. -/
  answers : ∀ caller seen changed, last.stage caller = .returned seen changed →
    (changed = true ↔ ∃ manifest ∈ seen, StillFirstFound (host caller) manifest)
  /-- The manifest is the one of the beginning with the addresses of those calls patched in. -/
  manifest : ∃ winners : List Caller, winners.Nodup ∧
    (∀ caller, caller ∈ winners ↔ (last.stage caller).hasPatched = true) ∧
      ∀ order : List Caller, winners.Perm order →
        PatchedIn first.world.disk last.world.disk (order.map host)
  /-- Each call that changed the manifest and is to apply it has handed it over once. -/
  handedOver : ∃ pushed : List Caller, pushed.Nodup ∧
    (∀ caller, caller ∈ pushed ↔ apply caller = true ∧ (last.stage caller).hasChanged = true) ∧
      pushes last.world = pushes first.world + pushed.length
  /-- What the cluster says to the manifest changes neither the answer nor the manifest. -/
  tolerated : ∀ caller seen result after, last.stage caller = .applying seen →
    (surroundings.applyManifest (last.world.disk.shown Layout.networkManifest)).run last.world =
        (result, after) →
      Step surroundings host apply last
          (last.going caller after last.holder (.returned seen true)) ∧
        after.disk.fileAt? Layout.networkManifest.names =
          last.world.disk.fileAt? Layout.networkManifest.names
  /-- Where the manifest can be read and replaced, no call fails. -/
  works : Serves first.world.disk → ∀ caller error, last.stage caller ≠ .failed error

/-- However the steps of many calls come one after another, the manifest is patched once at most
for each family of addresses. -/
theorem patched_once_per_family {address : Caller → IpAddress} {last : Calls Caller}
    (addresses : ∀ caller, IpAddress.ofText? (host caller) = some (address caller))
    (quiet : ∀ manifest, Within Aside (surroundings.apply manifest)) (begins : Begins first)
    (run : Relation.ReflTransGen (Step surroundings host apply) first last) :
    PatchedOnce surroundings host address apply first last := by
  obtain ⟨winners, pushed, sound⟩ := sound_of_run quiet begins run
  have noHint : ∀ other ∈ winners.map host, 'I' ∉ other.toList := by
    intro other member
    obtain ⟨caller, _, rfl⟩ := List.mem_map.mp member
    exact noHint_of_address (addresses caller)
  refine ⟨?_, ?_, ⟨winners, sound.winnersNodup, sound.patchers, ?_⟩,
    ⟨pushed, sound.pushedNodup, sound.handed, sound.pushes⟩, ?_, ?_⟩
  · intro one other patchedOne patchedOther sameFamily
    apply Classical.byContradiction
    intro different
    have apart := List.pairwise_map.mp (sound.manifest.hints_pairwise noHint)
    have symmetric : Std.Symm fun one other =>
        hintFor (host one).toList ≠ hintFor (host other).toList := ⟨fun _ _ => Ne.symm⟩
    exact apart.forall ((sound.patchers one).mpr patchedOne)
      ((sound.patchers other).mpr patchedOther) different
      (hintFor_eq_of_width (addresses one) (addresses other) sameFamily)
  · intro caller seen changed returned
    have agrees := sound.agrees caller
    rwa [returned] at agrees
  · exact fun order perm => sound.manifest.perm noHint (perm.map host)
  · intro caller seen result after applying ran
    have untouched := (applyManifest_aside quiet ran).1 sound.noneDue
    exact ⟨.push applying ran, untouched.file⟩
  · intro serves
    have serving : Serving first := ⟨serves, fun caller error => by simp [begins.waiting caller]⟩
    exact (serving_of_run quiet run serving).noFailure

end Running

/-! ## Three calls -/

/-- Surroundings in which the cluster takes no manifest. -/
def refusing : Surroundings :=
  { Rehearsal.quiet with
    apply := Kubectl.apply ⟨"kubectl", "control-plane"⟩ fun _ => .ok ⟨.status 1, .empty, .empty⟩ }

def joiner (caller : Fin 3) : String :=
  if caller = 0 then "10.0.0.2" else if caller = 1 then "fd00::2" else "10.0.0.3"

def joinerAddress (caller : Fin 3) : IpAddress :=
  if caller = 0 then .v4 0x0A000002
  else if caller = 1 then .v6 0xFD000000000000000000000000000002 else .v4 0x0A000003

def manifestWith (method methodOther : String) : String :=
  "IP_AUTODETECTION_METHOD: " ++ method ++ "\nIP6_AUTODETECTION_METHOD: " ++ methodOther ++ "\n"

def freshManifest : String := manifestWith "first-found" "first-found"

def halfPatched : String := manifestWith "can-reach=10.0.0.2" "first-found"

def wholePatched : String := manifestWith "can-reach=10.0.0.2" "can-reach=fd00::2"

def opening : Calls (Fin 3) where
  world :=
    { disk :=
        { Disk.empty "/data" with
          entries :=
            [(["args"], .directory), (["args", "cni-network"], .directory),
              (Layout.networkManifest.names, .file freshManifest.toUTF8 false)] }
      clock := 1000
      pending := []
      calls := []
      drawn := 0
      shutdownAt := none }
  holder := none
  stage := fun _ => .waiting

theorem opening_begins : Begins opening :=
  ⟨rfl, fun _ => rfl, fun _ member => absurd member List.not_mem_nil⟩

/-- The first call has patched the manifest, and has yet to hand it over. -/
def afterFirst : Calls (Fin 3) :=
  opening.going 0
    { opening.world with disk := ((patchFile "10.0.0.2").run opening.world.disk).2 } none
    (.applying (some freshManifest))

/-- The second call comes and goes for the other family. -/
def afterSecond : Calls (Fin 3) :=
  afterFirst.going 1 ((Join.patchManifest refusing "fd00::2" true).run afterFirst.world).2 none
    (.returned (some halfPatched) true)

/-- The third call finds nothing to patch. -/
def afterThird : Calls (Fin 3) :=
  afterSecond.going 2 ((Join.patchManifest refusing "10.0.0.3" true).run afterSecond.world).2 none
    (.returned (some wholePatched) false)

/-- The first call has handed over what by now is the manifest. -/
def closing : Calls (Fin 3) :=
  afterThird.going 0
    ((refusing.applyManifest (afterThird.world.disk.shown Layout.networkManifest)).run
      afterThird.world).2
    none (.returned (some freshManifest) true)

theorem opening_to_afterFirst :
    Relation.ReflTransGen (Step refusing joiner fun _ => true) opening afterFirst := by
  obtain ⟨read, answered⟩ :
      (opening.world.disk.textOf Layout.networkManifest).toOption = some freshManifest ∧
        ((patchFile (joiner 0)).run opening.world.disk).1.toOption = some true := by
    decide +kernel
  have run : Relation.ReflTransGen (Step refusing joiner fun _ => true) opening _ :=
    run_of_patchFile rfl rfl (run_of_toOption answered)
  rwa [read] at run

theorem run_of_call {state : Calls (Fin 3)} {caller : Fin 3} {manifest : String} {changed : Bool}
    (free : state.holder = none) (waiting : state.stage caller = .waiting)
    (found : (state.world.disk.textOf Layout.networkManifest).toOption = some manifest ∧
      ((Join.patchManifest refusing (joiner caller) true).run state.world).1.toOption =
        some changed) :
    Relation.ReflTransGen (Step refusing joiner fun _ => true) state
      (state.going caller
        ((Join.patchManifest refusing (joiner caller) true).run state.world).2 none
        (.returned (some manifest) changed)) := by
  obtain ⟨read, answered⟩ := found
  rw [← read]
  exact run_of_patchManifest free waiting (run_of_toOption answered)

theorem afterFirst_to_afterSecond :
    Relation.ReflTransGen (Step refusing joiner fun _ => true) afterFirst afterSecond :=
  run_of_call rfl rfl (by decide +kernel)

theorem afterSecond_to_afterThird :
    Relation.ReflTransGen (Step refusing joiner fun _ => true) afterSecond afterThird :=
  run_of_call rfl rfl (by decide +kernel)

theorem opening_to_closing :
    Relation.ReflTransGen (Step refusing joiner fun _ => true) opening closing :=
  opening_to_afterFirst.trans afterFirst_to_afterSecond
    |>.trans afterSecond_to_afterThird
    |>.tail (.push rfl rfl)

/-- One call for each family has changed the manifest, and the third has not. -/
theorem closing_patched_once :
    (closing.stage 0 = .returned (some freshManifest) true ∧
        closing.stage 1 = .returned (some halfPatched) true ∧
          closing.stage 2 = .returned (some wholePatched) false) ∧
      manifest? closing.world.disk = some wholePatched ∧ pushes closing.world = 2 ∧
        PatchedOnce refusing joiner joinerAddress (fun _ => true) opening closing := by
  obtain ⟨stands, pushed⟩ :
      manifest? closing.world.disk = some wholePatched ∧ pushes closing.world = 2 := by
    decide +kernel
  exact ⟨⟨rfl, rfl, rfl⟩, stands, pushed, patched_once_per_family (by decide +kernel)
    (kubectl_aside _ _) opening_begins opening_to_closing⟩

end Patchers
end ClusterAgent
