import ClusterAgent.Proofs.Blindness
import ClusterAgent.Proofs.Files.Reading
namespace ClusterAgent
namespace Disk

open Running

/-! ## Disks that differ in some entries only -/

/-- The two disks are the same except in the entries with the names in `hidden`. -/
structure AgreeOff (hidden : List (List String)) (left right : Disk) : Prop where
  root : left.root = right.root
  written : left.written = right.written
  refuses : left.refuses = right.refuses
  entries : ∀ names, names ∉ hidden → left.entryAt? names = right.entryAt? names

/-- Neither the names nor those of a directory on the way are hidden. -/
def Apart (hidden : List (List String)) (names : List String) : Prop :=
  ∀ secret ∈ hidden, ¬secret <+: names

instance (hidden : List (List String)) (names : List String) : Decidable (Apart hidden names) :=
  inferInstanceAs (Decidable (∀ secret ∈ hidden, ¬secret <+: names))

theorem Apart.not_mem {hidden : List (List String)} {names : List String}
    (apart : Apart hidden names) : names ∉ hidden :=
  fun member => apart names member List.prefix_rfl

theorem Apart.of_prefix {hidden : List (List String)} {front names : List String}
    (apart : Apart hidden names) (isFront : front <+: names) : Apart hidden front :=
  fun secret member before => apart secret member (before.trans isFront)

namespace AgreeOff

variable {hidden : List (List String)} {left right : Disk}

theorem shown (agree : AgreeOff hidden left right) (place : Place) :
    left.shown place = right.shown place := by
  rw [Disk.shown, Disk.shown, agree.root]

theorem pathOf (agree : AgreeOff hidden left right) (names : List String) :
    left.pathOf names = right.pathOf names :=
  agree.shown _

theorem entryAt? (agree : AgreeOff hidden left right) {names : List String}
    (apart : Apart hidden names) : left.entryAt? names = right.entryAt? names :=
  agree.entries names apart.not_mem

theorem put (agree : AgreeOff hidden left right) (names : List String) (entry : Entry) :
    AgreeOff hidden (left.put names entry) (right.put names entry) := by
  refine ⟨agree.root, agree.written, agree.refuses, fun other visible => ?_⟩
  by_cases same : other = names
  · subst other
    rw [entryAt?_put_self, entryAt?_put_self]
  · rw [entryAt?_put_of_ne left entry same, entryAt?_put_of_ne right entry same,
      agree.entries other visible]

theorem remove (agree : AgreeOff hidden left right) (names : List String) :
    AgreeOff hidden (left.remove names) (right.remove names) := by
  refine ⟨agree.root, agree.written, agree.refuses, fun other visible => ?_⟩
  by_cases same : other = names
  · subst other
    rw [entryAt?_remove_self, entryAt?_remove_self]
  · rw [entryAt?_remove_of_ne left same, entryAt?_remove_of_ne right same,
      agree.entries other visible]

theorem note (agree : AgreeOff hidden left right) (names : List String) :
    AgreeOff hidden (left.note names) (right.note names) :=
  ⟨agree.root, congrArg (names :: ·) agree.written, agree.refuses, agree.entries⟩

theorem locate (agree : AgreeOff hidden left right) {above names : List String}
    (apart : Apart hidden (above ++ names)) :
    left.locate above names = right.locate above names := by
  induction names generalizing above with
  | nil => rfl
  | cons name rest inductionHypothesis =>
      rw [← List.singleton_append, ← List.append_assoc] at apart
      rw [Disk.locate, Disk.locate, agree.entryAt? (apart.of_prefix (List.prefix_append _ _)),
        inductionHypothesis apart]

theorem find (agree : AgreeOff hidden left right) {place : Place}
    (apart : Apart hidden place.names) : left.find place = right.find place := by
  have way : Apart hidden ([] ++ place.names) := apart
  rw [Disk.find, Disk.find, agree.locate way]

theorem holds (agree : AgreeOff hidden left right) {place : Place}
    (apart : Apart hidden place.names) : left.holds place = right.holds place := by
  rw [Disk.holds, Disk.holds, agree.find apart]

theorem contentOf (agree : AgreeOff hidden left right) {place : Place}
    (apart : Apart hidden place.names) : left.contentOf place = right.contentOf place := by
  rw [Disk.contentOf, Disk.contentOf, agree.refuses, agree.find apart]

theorem textOf (agree : AgreeOff hidden left right) {place : Place}
    (apart : Apart hidden place.names) : left.textOf place = right.textOf place := by
  rw [Disk.textOf, Disk.textOf, agree.contentOf apart]

end AgreeOff

/-! ## Operations that do not see hidden entries -/

section Blindness

variable {hidden : List (List String)}

theorem attempt_blind (operation : Operation) (names : List String) :
    Blind (AgreeOff hidden) (attempt operation names) := by
  intro left right agree
  rw [run_attempt, run_attempt, agree.refuses]
  exact ⟨rfl, agree⟩

theorem readText_blind {place : Place} (apart : Apart hidden place.names) :
    Blind (AgreeOff hidden) (readText place) := by
  intro left right agree
  rw [run_readText, run_readText, agree.textOf apart]
  exact ⟨rfl, agree⟩

theorem readOptional_blind {place : Place} (apart : Apart hidden place.names) :
    Blind (AgreeOff hidden) (readOptional place) := by
  intro left right agree
  rw [run_readOptional, run_readOptional, agree.textOf apart]
  exact ⟨rfl, agree⟩

theorem readWhole_blind {place : Place} (apart : Apart hidden place.names) :
    Blind (AgreeOff hidden) (readWhole place) := by
  intro left right agree
  rw [run_readWhole, run_readWhole, agree.contentOf apart, agree.shown place]
  exact ⟨rfl, agree⟩

theorem makeDirectories_blind {above names : List String}
    (apart : Apart hidden (above ++ names)) :
    Blind (AgreeOff hidden) (makeDirectories above names) := by
  induction names generalizing above with
  | nil => exact blind_pure ()
  | cons name rest inductionHypothesis =>
      rw [← List.singleton_append, ← List.append_assoc] at apart
      have later := inductionHypothesis apart
      rw [makeDirectories]
      refine blind_get (fun left right agree => ?_) fun disk => ?_
      · rw [agree.entryAt? (apart.of_prefix (List.prefix_append _ _))]
      · split
        · exact later
        · exact blind_throw _
        · exact blind_bind (attempt_blind _ _) fun _ =>
            blind_bind (blind_modify fun _ _ agree => agree.put _ _) fun _ => later

theorem openFile_blind {names : List String} (apart : Apart hidden names) :
    Blind (AgreeOff hidden) (openFile names) := by
  refine blind_bind (attempt_blind _ _) fun _ =>
    blind_get (fun left right agree => ?_) fun disk => ?_
  · rw [agree.entryAt? apart]
  · split
    · exact blind_throw _
    · exact blind_pure _
    · exact blind_modify fun _ _ agree => agree.put _ _

theorem overwrite_blind {names : List String} (apart : Apart hidden names)
    (content : ByteArray) : Blind (AgreeOff hidden) (overwrite names content) := by
  refine blind_get (fun left right agree => ?_) fun disk => ?_
  · rw [agree.entryAt? apart]
  · exact blind_bind (blind_modify fun _ _ agree => agree.put _ _) fun _ =>
      blind_bind (attempt_blind _ _) fun _ =>
        blind_modify fun _ _ agree => (agree.put _ _).note _

theorem rename_blind {source : List String} {target : Place} (apart : Apart hidden source)
    (targetApart : Apart hidden target.names) :
    Blind (AgreeOff hidden) (rename source target) := by
  refine blind_bind (attempt_blind _ _) fun _ =>
    blind_get (fun left right agree => ?_) fun disk => blind_get (fun left right agree => ?_)
      fun again => ?_
  · rw [agree.entryAt? targetApart]
  · rw [agree.entryAt? apart]
  · split
    · exact blind_throw _
    · split
      · exact blind_throw _
      · exact blind_modify fun _ _ agree => ((agree.remove _).put _ _).note _
    · exact blind_throw _

theorem makePrivate_blind {names : List String} (apart : Apart hidden names) :
    Blind (AgreeOff hidden) (makePrivate names) := by
  refine blind_modify fun left right agree => ?_
  rw [agree.entryAt? apart]
  split
  · exact agree.put _ _
  · exact agree

/-- A file that can be replaced without a look at the hidden entries. -/
structure Replaceable (hidden : List (List String)) (place : Place) : Prop where
  target : Apart hidden place.names
  beside : Apart hidden place.temporary

theorem writeAtomic_blind {place : Place} (replaceable : Replaceable hidden place)
    (content : ByteArray) : Blind (AgreeOff hidden) (writeAtomic place content) := by
  have parent : Apart hidden ([] ++ place.parent) :=
    replaceable.target.of_prefix (List.dropLast_prefix _)
  have replacing : Blind (AgreeOff hidden) (do
      makeDirectories [] place.parent
      openFile place.temporary
      overwrite place.temporary content
      rename place.temporary place) :=
    blind_bind (makeDirectories_blind parent) fun _ =>
      blind_bind (openFile_blind replaceable.beside) fun _ =>
        blind_bind (overwrite_blind replaceable.beside content) fun _ =>
          rename_blind replaceable.beside replaceable.target
  unfold writeAtomic
  split
  · exact blind_bind (blind_throw _) fun _ => replacing
  · exact replacing

theorem touch_blind {place : Place} (apart : Apart hidden place.names) :
    Blind (AgreeOff hidden) (touch place) := by
  have parent : Apart hidden ([] ++ place.parent) := apart.of_prefix (List.dropLast_prefix _)
  have making : ∀ disk : Disk, Blind (AgreeOff hidden) (do
      ExceptT.adapt (FileError.creating (disk.shown place)) (openFile place.names)
      modify fun disk => disk.note place.names : Step FileError Unit) :=
    fun disk => blind_bind (blind_adapt (openFile_blind apart)) fun _ =>
      blind_modify fun _ _ agree => agree.note _
  refine blind_get (fun left right agree => ?_) fun disk => ?_
  · rw [agree.holds apart, agree.shown place, agree.pathOf place.parent]
  · split
    · exact blind_pure _
    · refine blind_bind (blind_adapt (makeDirectories_blind parent)) fun _ => ?_
      split
      · exact blind_bind (blind_throw _) fun _ => making disk
      · exact making disk

end Blindness

end Disk
end ClusterAgent
