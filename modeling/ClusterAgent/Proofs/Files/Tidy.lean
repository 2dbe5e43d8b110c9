import ClusterAgent.Proofs.Files.Replacing
namespace ClusterAgent
namespace Disk

open Running

/-! ## Disks on which every file can be written -/

/-- No file stands where another one needs a directory. -/
def Layered (files : List (List String)) : Prop :=
  ∀ file ∈ files, ∀ other ∈ files, file <+: other → file = other

instance (files : List (List String)) : Decidable (Layered files) :=
  inferInstanceAs (Decidable (∀ file ∈ files, ∀ other ∈ files, file <+: other → file = other))

/-- The disk refuses nothing. Its files are among `files` and hold texts, and none of `files` is
a directory. -/
structure Tidy (files : List (List String)) (disk : Disk) : Prop where
  allowed : ∀ operation names, disk.refuses operation names = none
  texts : ∀ names content isPrivate, disk.entryAt? names = some (.file content isPrivate) →
    names ∈ files ∧ ∃ text : String, content = text.toUTF8
  directories : ∀ names, disk.entryAt? names = some .directory → names ∉ files

/-- A place for a file that is replaced as a whole. -/
structure Writable (files : List (List String)) (place : Place) : Prop where
  member : place.names ∈ files
  temporaryMember : place.temporary ∈ files
  plain : place.asDirectory = false
  nonempty : place.names ≠ []

instance (files : List (List String)) (place : Place) : Decidable (Writable files place) :=
  decidable_of_iff
    (place.names ∈ files ∧ place.temporary ∈ files ∧ place.asDirectory = false ∧
      place.names ≠ [])
    ⟨fun ⟨member, temporaryMember, plain, nonempty⟩ =>
        ⟨member, temporaryMember, plain, nonempty⟩,
      fun ⟨member, temporaryMember, plain, nonempty⟩ =>
        ⟨member, temporaryMember, plain, nonempty⟩⟩

section Keeping

variable {files : List (List String)} {disk : Disk} {names : List String}

theorem tidy_empty (files : List (List String)) (root : String) : Tidy files (empty root) where
  allowed := fun _ _ => rfl
  texts := fun _ _ _ present => nomatch present
  directories := fun _ present => nomatch present

namespace Tidy

theorem put {entry : Entry} (tidy : Tidy files disk)
    (file : ∀ content isPrivate, entry = .file content isPrivate →
      names ∈ files ∧ ∃ text : String, content = text.toUTF8)
    (directory : entry = .directory → names ∉ files) : Tidy files (disk.put names entry) := by
  refine ⟨tidy.allowed, fun other content isPrivate present => ?_, fun other present => ?_⟩
  · by_cases same : other = names
    · subst same
      rw [entryAt?_put_self] at present
      exact file content isPrivate (Option.some.inj present)
    · rw [entryAt?_put_of_ne _ _ same] at present
      exact tidy.texts other content isPrivate present
  · by_cases same : other = names
    · subst same
      rw [entryAt?_put_self] at present
      exact directory (Option.some.inj present)
    · rw [entryAt?_put_of_ne _ _ same] at present
      exact tidy.directories other present

theorem put_file (tidy : Tidy files disk) (member : names ∈ files) (text : String)
    (isPrivate : Bool) : Tidy files (disk.put names (.file text.toUTF8 isPrivate)) := by
  refine tidy.put (fun content otherPrivate same => ?_) fun same => nomatch same
  cases same
  exact ⟨member, text, rfl⟩

theorem put_directory (tidy : Tidy files disk) (apart : names ∉ files) :
    Tidy files (disk.put names .directory) :=
  tidy.put (fun _ _ same => nomatch same) fun _ => apart

theorem remove (tidy : Tidy files disk) (names : List String) : Tidy files (disk.remove names) := by
  have still {other : List String} {entry : Entry}
      (present : (disk.remove names).entryAt? other = some entry) :
      disk.entryAt? other = some entry := by
    by_cases same : other = names
    · subst same
      rw [entryAt?_remove_self] at present
      cases present
    · rwa [entryAt?_remove_of_ne _ same] at present
  exact ⟨tidy.allowed, fun other content isPrivate present =>
    tidy.texts other content isPrivate (still present), fun other present =>
      tidy.directories other (still present)⟩

theorem note (tidy : Tidy files disk) (names : List String) : Tidy files (disk.note names) :=
  ⟨tidy.allowed, tidy.texts, tidy.directories⟩

/-- On the way to a file there is no other file, and no directory stands in its place. -/
theorem locate (tidy : Tidy files disk) (layered : Layered files) {above : List String}
    (member : above ++ names ∈ files) (nonempty : names ≠ []) :
    disk.locate above names = .error .notFound ∨
      ∃ (text : String) (isPrivate : Bool),
        disk.locate above names = .ok (.file text.toUTF8 isPrivate) := by
  induction names generalizing above with
  | nil => exact absurd rfl nonempty
  | cons name rest inductionHypothesis =>
      have shape : above ++ name :: rest = above ++ [name] ++ rest := by simp
      rw [shape] at member
      rw [Disk.locate]
      rcases here : disk.entryAt? (above ++ [name]) with _ | entry
      · exact Or.inl rfl
      · cases entry with
        | directory =>
            have notFile := tidy.directories _ here
            have restNonempty : rest ≠ [] := by
              rintro rfl
              rw [List.append_nil] at member
              exact notFile member
            exact inductionHypothesis member restNonempty
        | file content isPrivate =>
            obtain ⟨isFile, text, rfl⟩ := tidy.texts _ _ _ here
            have same := layered _ isFile _ member (List.prefix_append _ _)
            have last : rest = [] := List.self_eq_append_right.mp same
            exact Or.inr ⟨text, isPrivate, if_pos (by simpa using last)⟩

theorem textOf (tidy : Tidy files disk) (layered : Layered files) {place : Place}
    (writable : Writable files place) :
    disk.textOf place = .error .notFound ∨ ∃ text, disk.textOf place = .ok text := by
  have found : disk.locate [] place.names = .error .notFound ∨ _ :=
    tidy.locate layered writable.member writable.nonempty
  rcases found with missing | ⟨text, isPrivate, located⟩
  · left
    simp only [Disk.textOf, contentOf, tidy.allowed, find, missing]
  · right
    refine ⟨text, ?_⟩
    simp only [Disk.textOf, contentOf, tidy.allowed, find, located, writable.plain,
      Bool.false_eq_true, if_false, Utf8.decode_toUTF8]

end Tidy

end Keeping

/-! ## Operations that succeed -/

section Working

variable {files : List (List String)} {place : Place}

theorem attempt_works (operation : Operation) (names : List String) :
    Works (Tidy files) (attempt operation names) := by
  intro disk tidy
  refine ⟨(), disk, ?_, tidy⟩
  rw [run_attempt, tidy.allowed]

theorem readOptional_works (layered : Layered files) (writable : Writable files place) :
    Works (Tidy files) (readOptional place) := by
  intro disk tidy
  rw [run_readOptional]
  rcases tidy.textOf layered writable with missing | ⟨text, read⟩
  · exact ⟨none, disk, by rw [missing]; rfl, tidy⟩
  · exact ⟨some text, disk, by rw [read], tidy⟩

theorem makeDirectories_works {above names : List String}
    (clear : ∀ front rest, names = front ++ rest → front ≠ [] → above ++ front ∉ files) :
    Works (Tidy files) (makeDirectories above names) := by
  induction names generalizing above with
  | nil => exact works_pure ()
  | cons name rest inductionHypothesis =>
      have notFile : above ++ [name] ∉ files := clear [name] rest rfl (by simp)
      have later : Works (Tidy files) (makeDirectories (above ++ [name]) rest) := by
        refine inductionHypothesis fun front others partition nonempty => ?_
        have whole := clear (name :: front) others (by rw [partition, List.cons_append]) (by simp)
        simpa only [List.append_assoc, List.singleton_append] using whole
      intro disk tidy
      rw [makeDirectories, run_bind, run_get]
      dsimp only
      rcases here : disk.entryAt? (above ++ [name]) with _ | entry
      · exact works_bind (attempt_works _ _)
          (fun _ => works_bind (works_modify fun _ good => good.put_directory notFile) fun _ =>
            later) disk tidy
      · cases entry with
        | directory => exact later disk tidy
        | file content isPrivate => exact absurd (tidy.texts _ _ _ here).1 notFile

theorem makeParent_works (layered : Layered files) (member : place.names ∈ files) :
    Works (Tidy files) (makeDirectories [] place.parent) := by
  refine makeDirectories_works fun front rest partition nonempty isFile => ?_
  have isFront : front <+: place.parent := ⟨rest, partition.symm⟩
  have same := layered front isFile place.names member
    (isFront.trans (List.dropLast_prefix _))
  have shorter := isFront.length_le
  have parentLength : place.parent.length = place.names.length - 1 := List.length_dropLast
  have positive := List.length_pos_iff.mpr nonempty
  rw [same] at shorter positive
  omega

theorem openFile_works {names : List String} (member : names ∈ files) {before : Disk}
    (tidy : Tidy files before) :
    ∃ after, (openFile names).run before = (.ok (), after) ∧ Tidy files after ∧
      ∃ content isPrivate, after.entryAt? names = some (.file content isPrivate) := by
  rw [openFile, run_bind, run_attempt, tidy.allowed]
  dsimp only
  rw [run_bind, run_get]
  dsimp only
  rcases here : before.entryAt? names with _ | entry
  · exact ⟨_, rfl, tidy.put_file member "" false, _, _, entryAt?_put_self _ _ _⟩
  · cases entry with
    | directory => exact absurd member (tidy.directories _ here)
    | file content isPrivate => exact ⟨before, rfl, tidy, content, isPrivate, here⟩

theorem overwrite_works {names : List String} (member : names ∈ files) (text : String) :
    Works (Tidy files) (overwrite names text.toUTF8) := by
  refine works_bind works_get fun disk => works_bind (works_modify fun _ good => ?_) fun _ =>
    works_bind (attempt_works _ _) fun _ => works_modify fun _ good => ?_
  · exact good.put_file member "" _
  · exact (good.put_file member text _).note names

theorem rename_works {source : List String} (writable : Writable files place) {before : Disk}
    (tidy : Tidy files before) {content : ByteArray} {isPrivate : Bool}
    (present : before.entryAt? source = some (.file content isPrivate)) :
    ∃ after, (rename source place).run before = (.ok (), after) ∧ Tidy files after := by
  obtain ⟨_, text, rfl⟩ := tidy.texts _ _ _ present
  have moved : Tidy files
      (((before.remove source).put place.names (.file text.toUTF8 isPrivate)).note place.names) :=
    ((tidy.remove source).put_file writable.member text isPrivate).note _
  rw [rename, run_bind, run_attempt, tidy.allowed]
  dsimp only
  rw [run_bind, run_get]
  dsimp only
  rw [run_bind, run_get]
  dsimp only
  rw [present, writable.plain]
  rcases target : before.entryAt? place.names with _ | entry
  · exact ⟨_, rfl, moved⟩
  · cases entry with
    | directory => exact absurd writable.member (tidy.directories _ target)
    | file old oldPrivate => exact ⟨_, rfl, moved⟩

theorem writeAtomic_works (layered : Layered files) (writable : Writable files place)
    (text : String) : Works (Tidy files) (writeAtomic place text.toUTF8) := by
  intro before tidy
  obtain ⟨_, made, ranDirectories, tidyMade⟩ :=
    makeParent_works layered writable.member before tidy
  obtain ⟨opened, ranOpen, tidyOpened, content, isPrivate, present⟩ :=
    openFile_works writable.temporaryMember tidyMade
  obtain ⟨_, written, ranOverwrite, tidyWritten⟩ :=
    overwrite_works writable.temporaryMember text opened tidyOpened
  have filled := (overwrite_ok present ranOverwrite).1
  obtain ⟨renamed, ranRename, tidyRenamed⟩ := rename_works writable tidyWritten filled
  refine ⟨(), renamed, ?_, tidyRenamed⟩
  rw [writeAtomic, if_neg (by simpa using writable.nonempty), run_bind, ranDirectories]
  dsimp only
  rw [run_bind, ranOpen]
  dsimp only
  rw [run_bind, ranOverwrite]
  exact ranRename

theorem makePrivate_works {names : List String} :
    Works (Tidy files) (makePrivate names) := by
  refine works_modify fun disk tidy => ?_
  split
  · rename_i content isPrivate present
    obtain ⟨member, text, rfl⟩ := tidy.texts _ _ _ present
    exact tidy.put_file member text true
  · exact tidy

theorem writeSecret_works (layered : Layered files) (writable : Writable files place)
    (text : String) : Works (Tidy files) (writeSecret place text.toUTF8) :=
  works_bind works_get fun _ => works_adapt
    (works_bind (writeAtomic_works layered writable text) fun _ => makePrivate_works)

theorem touch_works (layered : Layered files) (member : place.names ∈ files)
    (plain : place.asDirectory = false) : Works (Tidy files) (touch place) := by
  refine works_bind works_get fun disk => ?_
  split
  · exact works_pure ()
  · refine works_bind (works_adapt (makeParent_works layered member)) fun _ => ?_
    rw [plain]
    refine works_bind (works_adapt fun disk tidy => ?_) fun _ =>
      works_modify fun _ good => good.note _
    obtain ⟨opened, ran, tidyOpened, _⟩ := openFile_works member tidy
    exact ⟨(), opened, ran, tidyOpened⟩

end Working

end Disk
end ClusterAgent
