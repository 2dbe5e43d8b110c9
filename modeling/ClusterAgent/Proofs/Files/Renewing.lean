import ClusterAgent.Proofs.Files.Storing
namespace ClusterAgent
namespace Disk

open Running

/-! ## Files that can be replaced again -/

/-- A text stands at the place, nothing stands beside it, and the disk refuses nothing that
replaces the text as a whole. -/
structure Renewable (place : Place) (disk : Disk) : Prop where
  plain : place.asDirectory = false
  nonempty : place.names ≠ []
  way : disk.Reaches place.names
  file : ∃ (text : String) (isPrivate : Bool),
    disk.entryAt? place.names = some (.file text.toUTF8 isPrivate)
  beside : disk.entryAt? place.temporary = none
  opens : disk.refuses .open place.temporary = none
  writes : disk.refuses .write place.temporary = none
  moves : disk.refuses .rename place.names = none

/-- The directories on the way to the place are there, and neither an entry nor a refusal of the
disk keeps a file from being replaced. -/
structure Accepts (place : Place) (disk : Disk) : Prop where
  plain : place.asDirectory = false
  nonempty : place.names ≠ []
  way : disk.Reaches place.names
  target : disk.entryAt? place.names ≠ some .directory
  beside : disk.entryAt? place.temporary ≠ some .directory
  opens : disk.refuses .open place.temporary = none
  writes : disk.refuses .write place.temporary = none
  moves : disk.refuses .rename place.names = none

section Replacing

variable {touched : List (List String)} {before after : Disk} {place : Place}

theorem allowed_of_attempt {operation : Operation} {names : List String}
    (ran : (attempt operation names).run before = (.ok (), after)) :
    before.refuses operation names = none := by
  rw [run_attempt] at ran
  rcases allowed : before.refuses operation names with _ | reason
  · rfl
  · rw [allowed] at ran
    cases ran

theorem allowed_of_openFile {names : List String}
    (ran : (openFile names).run before = (.ok (), after)) :
    before.refuses .open names = none := by
  obtain ⟨_, _, tried, _⟩ := bind_ok ran
  exact allowed_of_attempt tried

theorem allowed_of_overwrite {names : List String} {content : ByteArray}
    (ran : (overwrite names content).run before = (.ok (), after)) :
    before.refuses .write names = none := by
  obtain ⟨_, _, fetched, ran⟩ := bind_ok ran
  cases fetched
  obtain ⟨_, emptied, emptying, ran⟩ := bind_ok ran
  obtain ⟨_, _, tried, _⟩ := bind_ok ran
  cases emptying
  exact (allowed_of_attempt tried :)

theorem allowed_of_rename {source : List String}
    (ran : (rename source place).run before = (.ok (), after)) :
    before.refuses .rename place.names = none := by
  obtain ⟨_, _, tried, _⟩ := bind_ok ran
  exact allowed_of_attempt tried

/-- What was replaced as a whole once can be replaced again. -/
theorem renewable_of_writeAtomic {text : String}
    (ran : (writeAtomic place text.toUTF8).run before = (.ok (), after)) :
    Renewable place after := by
  have nonempty := nonempty_of_writeAtomic ran
  have plain := plain_of_writeAtomic ran
  have way := writeAtomic_reaches ran
  have changes : ChangesOnly [place.names, place.temporary] before after :=
    (writeAtomic_within _ (by simp) (by simp)).reaches ran
  obtain ⟨⟨isPrivate, file⟩, beside, _⟩ := writeAtomic_ok ran
  unfold writeAtomic at ran
  rw [if_neg (by simpa using nonempty)] at ran
  obtain ⟨_, made, ranDirectories, ran⟩ := bind_ok ran
  obtain ⟨_, opened, ranOpen, ran⟩ := bind_ok ran
  obtain ⟨_, full, ranOverwrite, ranRename⟩ := bind_ok ran
  have making : made.refuses = before.refuses :=
    ((makeDirectories_opens _ _).reaches ranDirectories).refuses
  have opening : ChangesOnly [place.temporary] made opened :=
    (openFile_within (by simp)).reaches ranOpen
  have filling : ChangesOnly [place.temporary] opened full :=
    (overwrite_within _ (by simp)).reaches ranOverwrite
  refine ⟨plain, nonempty, way, ⟨text, isPrivate, file⟩, beside, ?_, ?_, ?_⟩
  · rw [changes.refuses, ← making]
    exact allowed_of_openFile ranOpen
  · rw [changes.refuses, ← making, ← opening.refuses]
    exact allowed_of_overwrite ranOverwrite
  · rw [changes.refuses, ← making, ← opening.refuses, ← filling.refuses]
    exact allowed_of_rename ranRename

theorem makeDirectories_still {disk : Disk} {above names : List String}
    (way : ∀ front rest, names = front ++ rest → front ≠ [] →
      disk.entryAt? (above ++ front) = some .directory) :
    (makeDirectories above names).run disk = (.ok (), disk) := by
  induction names generalizing above with
  | nil => rfl
  | cons name rest inductionHypothesis =>
      have here : disk.entryAt? (above ++ [name]) = some .directory :=
        way [name] rest rfl (List.cons_ne_nil _ _)
      have later : (makeDirectories (above ++ [name]) rest).run disk = (.ok (), disk) := by
        refine inductionHypothesis fun front back partition _ => ?_
        rw [List.append_assoc]
        exact way (name :: front) back (by rw [partition, List.cons_append])
          (List.cons_ne_nil _ _)
      rw [makeDirectories, run_bind, run_get]
      dsimp only
      rw [here]
      exact later

theorem parent_still (nonempty : place.names ≠ []) (way : before.Reaches place.names) :
    (makeDirectories [] place.parent).run before = (.ok (), before) := by
  refine makeDirectories_still fun front rest partition frontNonempty => ?_
  rcases List.eq_nil_or_concat place.names with empty | ⟨parent, last, shape⟩
  · exact absurd empty nonempty
  · rw [Place.parent, shape, List.concat_eq_append, List.dropLast_concat] at partition
    refine way front (rest ++ [last]) ?_ frontNonempty (by simp)
    rw [shape, List.concat_eq_append, partition, List.append_assoc]

theorem names_apart_temporary (nonempty : place.names ≠ []) :
    ¬place.names <+: place.temporary := fun isFront =>
  temporary_ne_names nonempty (isFront.eq_of_length (length_temporary nonempty).symm).symm

theorem noDirectory_of_rename {source : List String}
    (ran : (rename source place).run before = (.ok (), after)) :
    before.entryAt? place.names ≠ some .directory := by
  obtain ⟨_, _, allowed, ran⟩ := bind_ok ran
  cases attempt_ok allowed
  obtain ⟨_, _, fetched, ran⟩ := bind_ok ran
  cases fetched
  obtain ⟨_, _, fetchedAgain, ran⟩ := bind_ok ran
  cases fetchedAgain
  split at ran
  · cases ran
  · rename_i notDirectory
    exact notDirectory
  · cases ran

theorem attempt_allowed (operation : Operation) (names : List String) :
    Works (fun disk => disk.refuses operation names = none) (attempt operation names) := by
  intro disk allowed
  refine ⟨(), disk, ?_, allowed⟩
  rw [run_attempt, allowed]

theorem overwrite_allowed (names : List String) (content : ByteArray) :
    Works (fun disk => disk.refuses .write names = none) (overwrite names content) :=
  works_bind works_get fun _ => works_bind (works_modify fun _ allowed => allowed) fun _ =>
    works_bind (attempt_allowed _ _) fun _ => works_modify fun _ allowed => allowed

theorem openFile_new {names : List String} (allowed : before.refuses .open names = none)
    (absent : before.entryAt? names = none) :
    (openFile names).run before = (.ok (), before.put names (.file .empty false)) := by
  rw [openFile, run_bind, run_attempt, allowed]
  dsimp only
  rw [run_bind, run_get]
  dsimp only
  rw [absent]
  rfl

theorem openFile_present {names : List String} {content : ByteArray} {isPrivate : Bool}
    (allowed : before.refuses .open names = none)
    (present : before.entryAt? names = some (.file content isPrivate)) :
    (openFile names).run before = (.ok (), before) := by
  rw [openFile, run_bind, run_attempt, allowed]
  dsimp only
  rw [run_bind, run_get]
  dsimp only
  rw [present]
  rfl

theorem openFile_accepted {names : List String} (allowed : before.refuses .open names = none)
    (noDirectory : before.entryAt? names ≠ some .directory) :
    ∃ after content isPrivate,
      (openFile names).run before = (.ok (), after) ∧
        after.entryAt? names = some (.file content isPrivate) := by
  rcases found : before.entryAt? names with _ | entry
  · exact ⟨_, _, _, openFile_new allowed found, entryAt?_put_self _ _ _⟩
  · cases entry with
    | directory => exact absurd found noDirectory
    | file content isPrivate => exact ⟨_, _, _, openFile_present allowed found, found⟩

theorem rename_accepted {source : List String} {content : ByteArray} {isPrivate : Bool}
    (allowed : before.refuses .rename place.names = none) (plain : place.asDirectory = false)
    (noDirectory : before.entryAt? place.names ≠ some .directory)
    (present : before.entryAt? source = some (.file content isPrivate)) :
    ∃ after, (rename source place).run before = (.ok (), after) := by
  rw [rename, run_bind, run_attempt, allowed]
  dsimp only
  rw [run_bind, run_get]
  dsimp only
  rw [run_bind, run_get]
  dsimp only
  split
  · rename_i isDirectory
    exact absurd isDirectory noDirectory
  · rw [plain]
    exact ⟨_, rfl⟩
  · rename_i absent _
    rw [present] at absent
    cases absent

theorem writeAtomic_accepted (accepts : Accepts place before) (content : ByteArray) :
    ∃ after, (writeAtomic place content).run before = (.ok (), after) := by
  obtain ⟨opened, old, isPrivate, opening, present⟩ :=
    openFile_accepted accepts.opens accepts.beside
  have openChanges : ChangesOnly [place.temporary] before opened :=
    (openFile_within (by simp)).reaches opening
  have writes : opened.refuses .write place.temporary = none := by
    rw [openChanges.refuses]
    exact accepts.writes
  obtain ⟨_, full, filling, _⟩ := overwrite_allowed place.temporary content opened writes
  have changes : ChangesOnly [place.temporary] before full :=
    openChanges.trans ((overwrite_within _ (by simp)).reaches filling)
  have moves : full.refuses .rename place.names = none := by
    rw [changes.refuses]
    exact accepts.moves
  have target : full.entryAt? place.names ≠ some .directory := by
    rw [changes.entryAt? (by simpa using names_apart_temporary accepts.nonempty)]
    exact accepts.target
  obtain ⟨after, moved⟩ :=
    rename_accepted moves accepts.plain target (overwrite_ok present filling).1
  refine ⟨after, ?_⟩
  rw [writeAtomic, if_neg (by simpa using accepts.nonempty), run_bind,
    parent_still accepts.nonempty accepts.way]
  dsimp only
  rw [run_bind, opening]
  dsimp only
  rw [run_bind, filling]
  exact moved

/-- Where the directories are there, exactly what the disk accepts is written. -/
theorem writeAtomic_iff (way : before.Reaches place.names) {text : String} :
    (∃ after, (writeAtomic place text.toUTF8).run before = (.ok (), after)) ↔
      Accepts place before := by
  refine ⟨?_, fun accepts => writeAtomic_accepted accepts _⟩
  rintro ⟨after, ran⟩
  have nonempty := nonempty_of_writeAtomic ran
  have renewable := renewable_of_writeAtomic ran
  have changes : ChangesOnly [place.names, place.temporary] before after :=
    (writeAtomic_within _ (by simp) (by simp)).reaches ran
  rw [writeAtomic, if_neg (by simpa using nonempty), run_bind, parent_still nonempty way] at ran
  obtain ⟨_, opened, ranOpen, ran⟩ := bind_ok ran
  obtain ⟨_, full, ranOverwrite, ranRename⟩ := bind_ok ran
  have filling : ChangesOnly [place.temporary] before full :=
    ((openFile_within (by simp)).reaches ranOpen).trans
      ((overwrite_within _ (by simp)).reaches ranOverwrite)
  refine ⟨renewable.plain, nonempty, way, ?_, ?_, ?_, ?_, ?_⟩
  · rw [← filling.entryAt? (by simpa using names_apart_temporary nonempty)]
    exact noDirectory_of_rename ranRename
  · rcases openFile_ok ranOpen with ⟨⟨_, _, present⟩, _⟩ | ⟨absent, _⟩
    · rw [present]
      simp
    · rw [absent]
      simp
  · rw [← changes.refuses]
    exact renewable.opens
  · rw [← changes.refuses]
    exact renewable.writes
  · rw [← changes.refuses]
    exact renewable.moves

/-- Whether a file can be replaced does not depend on its new content. -/
theorem writeAtomic_another {text : String}
    (ran : (writeAtomic place text.toUTF8).run before = (.ok (), after)) (other : ByteArray) :
    ∃ otherAfter, (writeAtomic place other).run before = (.ok (), otherAfter) := by
  have nonempty : ¬place.names.isEmpty = true := by simpa using nonempty_of_writeAtomic ran
  rw [writeAtomic, if_neg nonempty] at ran ⊢
  obtain ⟨_, made, making, ran⟩ := bind_ok ran
  have way : made.Reaches place.names := reaches_of_made making
  have there := parent_still (by simpa using nonempty) way
  -- From the directories on, a replacement with the old text is one that succeeds.
  have ranThere : (writeAtomic place text.toUTF8).run made = (.ok (), after) := by
    rw [writeAtomic, if_neg nonempty, run_bind, there]
    exact ran
  obtain ⟨otherAfter, otherRan⟩ :=
    writeAtomic_accepted ((writeAtomic_iff way).mp ⟨after, ranThere⟩) other
  rw [writeAtomic, if_neg nonempty, run_bind, there] at otherRan
  refine ⟨otherAfter, ?_⟩
  rw [run_bind, making]
  exact otherRan

theorem Renewable.accepts (renewable : Renewable place before) : Accepts place before := by
  obtain ⟨text, isPrivate, file⟩ := renewable.file
  refine ⟨renewable.plain, renewable.nonempty, renewable.way, ?_, ?_, renewable.opens,
    renewable.writes, renewable.moves⟩
  · rw [file]
    simp
  · rw [renewable.beside]
    simp

theorem writeAtomic_renews (place : Place) (text : String) :
    Works (Renewable place) (writeAtomic place text.toUTF8) := by
  intro before renewable
  obtain ⟨after, ran⟩ := writeAtomic_accepted renewable.accepts text.toUTF8
  exact ⟨(), after, ran, renewable_of_writeAtomic ran⟩

theorem Renewable.of_changes (renewable : Renewable place before)
    (changes : ChangesOnly touched before after) (clear : Clear touched place)
    (aside : ∀ names ∈ touched, ¬place.temporary <+: names) : Renewable place after := by
  obtain ⟨text, isPrivate, file⟩ := renewable.file
  refine ⟨renewable.plain, renewable.nonempty, changes.reaches clear renewable.way,
    ⟨text, isPrivate, changes.keeps_front clear List.prefix_rfl file⟩, ?_, ?_, ?_, ?_⟩
  · rw [changes.entryAt? aside]
    exact renewable.beside
  · rw [changes.refuses]
    exact renewable.opens
  · rw [changes.refuses]
    exact renewable.writes
  · rw [changes.refuses]
    exact renewable.moves

theorem makePrivate_renews (place : Place) :
    Works (Renewable place) (makePrivate place.names) := by
  refine works_modify fun disk renewable => ?_
  obtain ⟨text, isPrivate, file⟩ := renewable.file
  have distinct := temporary_ne_names renewable.nonempty
  have filling : ChangesOnly [place.names, place.temporary] disk
      (disk.put place.names (.file text.toUTF8 true)) :=
    ChangesOnly.put _ (by simp)
  rw [file]
  exact ⟨renewable.plain, renewable.nonempty,
    reaches_of_filling renewable.nonempty renewable.way filling,
    ⟨text, true, entryAt?_put_self _ _ _⟩,
    (entryAt?_put_of_ne _ _ distinct).trans renewable.beside,
    renewable.opens, renewable.writes, renewable.moves⟩

/-! ## Secrets -/

theorem writeSecret_ok {text : String}
    (ran : (writeSecret place text.toUTF8).run before = (.ok (), after)) :
    Renewable place after ∧
      after.entryAt? place.names = some (.file text.toUTF8 true) := by
  obtain ⟨_, _, fetched, ran⟩ := bind_ok ran
  cases fetched
  obtain ⟨_, written, ranWrite, ranPrivate⟩ := bind_ok (adapt_ok ran)
  obtain ⟨⟨isPrivate, file⟩, _⟩ := writeAtomic_ok ranWrite
  refine ⟨?_, makePrivate_ok file ranPrivate⟩
  obtain ⟨_, _, again, renewable⟩ :=
    makePrivate_renews place written (renewable_of_writeAtomic ranWrite)
  rw [ranPrivate] at again
  cases again
  exact renewable

/-- What was written as a secret can be written again, with any content. -/
theorem writeSecret_renews (place : Place) (text : String) :
    Works (Renewable place) (writeSecret place text.toUTF8) :=
  works_bind works_get fun _ => works_adapt
    (works_bind (writeAtomic_renews place text) fun _ => makePrivate_renews place)

theorem writeSecret_another {text : String}
    (ran : (writeSecret place text.toUTF8).run before = (.ok (), after)) (other : ByteArray) :
    ∃ otherAfter, (writeSecret place other).run before = (.ok (), otherAfter) := by
  obtain ⟨_, _, fetched, ran⟩ := bind_ok ran
  cases fetched
  obtain ⟨_, _, ranWrite, _⟩ := bind_ok (adapt_ok ran)
  obtain ⟨written, otherRan⟩ := writeAtomic_another ranWrite other
  refine ⟨((makePrivate place.names).run written).2, ?_⟩
  rw [writeSecret, run_bind, run_get]
  dsimp only
  rw [run_adapt, run_bind, otherRan]
  rfl

end Replacing

end Disk
end ClusterAgent
