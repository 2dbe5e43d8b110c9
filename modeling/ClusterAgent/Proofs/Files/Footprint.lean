import ClusterAgent.Proofs.Files.Reading
namespace ClusterAgent
namespace Disk

open Running

/-! ## Files -/

/-- The content of the file with these names, and whether it is private. -/
def fileAt? (disk : Disk) (names : List String) : Option (ByteArray × Bool) :=
  match disk.entryAt? names with
  | some (.file content isPrivate) => some (content, isPrivate)
  | _ => none

theorem fileAt?_of_entry {disk : Disk} {names : List String} {content : ByteArray}
    {isPrivate : Bool} (entry : disk.entryAt? names = some (.file content isPrivate)) :
    disk.fileAt? names = some (content, isPrivate) := by
  rw [fileAt?, entry]

theorem fileAt?_of_absent {disk : Disk} {names : List String}
    (absent : disk.entryAt? names = none) : disk.fileAt? names = none := by
  rw [fileAt?, absent]

/-! ## Changes of a few entries -/

/-- The two disks differ only in the entries named in `touched`, and in directories on the way
to these that were missing before. No other file was written in between. -/
structure ChangesOnly (touched : List (List String)) (before after : Disk) : Prop where
  root : after.root = before.root
  refuses : after.refuses = before.refuses
  written : ∃ fresh, after.written = fresh ++ before.written ∧ fresh ⊆ touched
  entries :
    ∀ names, names ∉ touched →
      after.entryAt? names = before.entryAt? names ∨
        before.entryAt? names = none ∧ after.entryAt? names = some .directory ∧
          ∃ place ∈ touched, names <+: place

namespace ChangesOnly

variable {touched : List (List String)} {before middle after : Disk}

theorem refl (touched : List (List String)) (disk : Disk) : ChangesOnly touched disk disk :=
  ⟨rfl, rfl, ⟨[], rfl, List.nil_subset _⟩, fun _ _ => Or.inl rfl⟩

theorem trans (first : ChangesOnly touched before middle)
    (second : ChangesOnly touched middle after) : ChangesOnly touched before after := by
  refine ⟨second.root.trans first.root, second.refuses.trans first.refuses, ?_, ?_⟩
  · obtain ⟨earlier, earlierWritten, earlierTouched⟩ := first.written
    obtain ⟨later, laterWritten, laterTouched⟩ := second.written
    refine ⟨later ++ earlier, ?_, List.append_subset.mpr ⟨laterTouched, earlierTouched⟩⟩
    rw [laterWritten, earlierWritten, List.append_assoc]
  intro names untouched
  rcases first.entries names untouched with same | ⟨absent, made, onTheWay⟩
  · rw [← same]
    exact second.entries names untouched
  · rcases second.entries names untouched with same | ⟨absentThen, _, _⟩
    · exact Or.inr ⟨absent, same.trans made, onTheWay⟩
    · rw [made] at absentThen
      cases absentThen

instance : Std.Refl (ChangesOnly touched) :=
  ⟨refl touched⟩

instance : Trans (ChangesOnly touched) (ChangesOnly touched) (ChangesOnly touched) :=
  ⟨trans⟩

theorem mono {wider : List (List String)} (changes : ChangesOnly touched before after)
    (included : touched ⊆ wider) : ChangesOnly wider before after := by
  refine ⟨changes.root, changes.refuses, ?_, ?_⟩
  · exact changes.written.imp fun _ fresh => ⟨fresh.1, List.Subset.trans fresh.2 included⟩
  · intro names untouched
    refine (changes.entries names fun member => untouched (included member)).imp_right ?_
    rintro ⟨absent, made, place, member, onTheWay⟩
    exact ⟨absent, made, place, included member, onTheWay⟩

/-- An entry that is there and not touched stays. -/
theorem keeps (changes : ChangesOnly touched before after) {names : List String} {entry : Entry}
    (untouched : names ∉ touched) (present : before.entryAt? names = some entry) :
    after.entryAt? names = some entry := by
  rcases changes.entries names untouched with same | ⟨absent, _⟩
  · exact same.trans present
  · rw [present] at absent
    cases absent

/-- What does not stand on the way to a touched entry stays. -/
theorem entryAt? (changes : ChangesOnly touched before after) {names : List String}
    (apart : ∀ place ∈ touched, ¬names <+: place) :
    after.entryAt? names = before.entryAt? names := by
  have untouched : names ∉ touched := fun member => apart names member List.prefix_rfl
  rcases changes.entries names untouched with same | ⟨_, _, place, member, onTheWay⟩
  · exact same
  · exact absurd onTheWay (apart place member)

/-- Directories that are made are no files. -/
theorem fileAt? (changes : ChangesOnly touched before after) {names : List String}
    (untouched : names ∉ touched) : after.fileAt? names = before.fileAt? names := by
  rcases changes.entries names untouched with same | ⟨absent, made, _⟩
  · rw [Disk.fileAt?, Disk.fileAt?, same]
  · rw [Disk.fileAt?, Disk.fileAt?, absent, made]

/-! ## The changes of single entries -/

theorem put {names : List String} (entry : Entry) (member : names ∈ touched) :
    ChangesOnly touched before (before.put names entry) := by
  refine ⟨rfl, rfl, ⟨[], rfl, List.nil_subset _⟩, ?_⟩
  intro other untouched
  refine Or.inl (entryAt?_put_of_ne before entry ?_)
  rintro rfl
  exact untouched member

theorem remove {names : List String} (member : names ∈ touched) :
    ChangesOnly touched before (before.remove names) := by
  refine ⟨rfl, rfl, ⟨[], rfl, List.nil_subset _⟩, ?_⟩
  intro other untouched
  refine Or.inl (entryAt?_remove_of_ne before ?_)
  rintro rfl
  exact untouched member

theorem note {names : List String} (member : names ∈ touched) :
    ChangesOnly touched before (before.note names) :=
  ⟨rfl, rfl, ⟨[names], rfl, List.cons_subset.mpr ⟨member, List.nil_subset _⟩⟩,
    fun _ _ => Or.inl rfl⟩

end ChangesOnly

/-! ## Directories that are made -/

/-- The two disks differ only in directories on a way that were missing before. -/
structure OpensOnly (way : List String) (before after : Disk) : Prop where
  root : after.root = before.root
  refuses : after.refuses = before.refuses
  written : after.written = before.written
  entries :
    ∀ names,
      after.entryAt? names = before.entryAt? names ∨
        before.entryAt? names = none ∧ after.entryAt? names = some .directory ∧ names <+: way

namespace OpensOnly

variable {way : List String} {before middle after : Disk}

theorem refl (way : List String) (disk : Disk) : OpensOnly way disk disk :=
  ⟨rfl, rfl, rfl, fun _ => Or.inl rfl⟩

theorem trans (first : OpensOnly way before middle) (second : OpensOnly way middle after) :
    OpensOnly way before after := by
  refine ⟨second.root.trans first.root, second.refuses.trans first.refuses,
    second.written.trans first.written, ?_⟩
  intro names
  rcases first.entries names with same | ⟨absent, made, onTheWay⟩
  · rw [← same]
    exact second.entries names
  · rcases second.entries names with same | ⟨absentThen, _, _⟩
    · exact Or.inr ⟨absent, same.trans made, onTheWay⟩
    · rw [made] at absentThen
      cases absentThen

theorem makeDirectory {names : List String} (absent : before.entryAt? names = none)
    (onTheWay : names <+: way) : OpensOnly way before (before.put names .directory) := by
  refine ⟨rfl, rfl, rfl, ?_⟩
  intro other
  by_cases same : other = names
  · subst other
    exact Or.inr ⟨absent, entryAt?_put_self before names .directory, onTheWay⟩
  · exact Or.inl (entryAt?_put_of_ne before .directory same)

theorem keeps (opens : OpensOnly way before after) {names : List String} {entry : Entry}
    (present : before.entryAt? names = some entry) : after.entryAt? names = some entry := by
  rcases opens.entries names with same | ⟨absent, _, _⟩
  · exact same.trans present
  · rw [present] at absent
    cases absent

theorem changes {touched : List (List String)} {place : List String}
    (opens : OpensOnly way before after) (member : place ∈ touched) (onTheWay : way <+: place) :
    ChangesOnly touched before after := by
  refine ⟨opens.root, opens.refuses, ⟨[], opens.written, List.nil_subset _⟩, ?_⟩
  intro names _
  refine (opens.entries names).imp_right ?_
  rintro ⟨absent, made, before⟩
  exact ⟨absent, made, place, member, before.trans onTheWay⟩

end OpensOnly

/-! ## Operations that change nothing -/

section Reading

theorem attempt_within (operation : Operation) (names : List String) :
    Within Eq (attempt operation names) :=
  fun disk => by rw [run_attempt]

theorem readText_within (place : Place) : Within Eq (readText place) :=
  fun disk => by rw [run_readText]

theorem readOptional_within (place : Place) : Within Eq (readOptional place) :=
  fun disk => by rw [run_readOptional]

theorem readWhole_within (place : Place) : Within Eq (readWhole place) :=
  fun disk => by rw [run_readWhole]

end Reading

/-! ## Operations that write -/

section Writing

variable {touched : List (List String)} {ε α : Type}

/-- What changes nothing changes only what may change. -/
theorem within_of_still {step : Step ε α} (still : Within Eq step) :
    Within (ChangesOnly touched) step :=
  within_mono still fun _ _ same => same ▸ ChangesOnly.refl touched _

/-- The directories on the way are made, and nothing else. -/
theorem makeDirectories_opens (above names : List String) :
    Within (OpensOnly (above ++ names)) (makeDirectories above names) := by
  -- The whole way stays the same while names pass from its rest to what is above.
  induction names generalizing above with
  | nil => exact fun disk => OpensOnly.refl _ disk
  | cons name rest inductionHypothesis =>
      have later := inductionHypothesis (above ++ [name])
      rw [List.append_assoc, List.singleton_append] at later
      intro disk
      rw [makeDirectories, run_bind, run_get]
      cases found : disk.entryAt? (above ++ [name]) with
      | some entry =>
          cases entry with
          | directory => simpa only [found] using later disk
          | file content isPrivate =>
              simp only [found]
              exact OpensOnly.refl _ disk
      | none =>
          have onTheWay : above ++ [name] <+: above ++ name :: rest :=
            ⟨rest, by rw [List.append_assoc, List.singleton_append]⟩
          simp only [found]
          rw [run_bind]
          have still := attempt_within .makeDirectory (above ++ [name]) disk
          rcases tried : (attempt .makeDirectory (above ++ [name])).run disk with
            ⟨error | done, unchanged⟩
          · rw [tried] at still
            cases still
            exact OpensOnly.refl _ _
          · rw [tried] at still
            cases still
            exact (OpensOnly.makeDirectory found onTheWay).trans (later _)

theorem makeDirectories_within {names place : List String} (member : place ∈ touched)
    (onTheWay : names <+: place) :
    Within (ChangesOnly touched) (makeDirectories [] names) :=
  within_mono (makeDirectories_opens [] names) fun _ _ opens => opens.changes member onTheWay

theorem openFile_within {names : List String} (member : names ∈ touched) :
    Within (ChangesOnly touched) (openFile names) := by
  refine within_bind (within_of_still (attempt_within _ _)) fun _ =>
    within_bind within_get fun disk => ?_
  split
  · exact within_throw _
  · exact within_pure _
  · exact within_modify fun disk => ChangesOnly.put _ member

theorem overwrite_within {names : List String} (content : ByteArray) (member : names ∈ touched) :
    Within (ChangesOnly touched) (overwrite names content) := by
  refine within_bind within_get fun disk =>
    within_bind (within_modify fun disk => ChangesOnly.put _ member) fun _ =>
      within_bind (within_of_still (attempt_within _ _)) fun _ => within_modify fun disk => ?_
  exact (ChangesOnly.put _ member).trans (ChangesOnly.note member)

theorem rename_within {source : List String} {target : Place} (sourceMember : source ∈ touched)
    (targetMember : target.names ∈ touched) :
    Within (ChangesOnly touched) (rename source target) := by
  refine within_bind (within_of_still (attempt_within _ _)) fun _ =>
    within_bind within_get fun _ => within_bind within_get fun disk => ?_
  split
  · exact within_throw _
  · split
    · exact within_throw _
    · refine within_modify fun disk => ?_
      exact ((ChangesOnly.remove sourceMember).trans (ChangesOnly.put _ targetMember)).trans
        (ChangesOnly.note targetMember)
  · exact within_throw _

theorem makePrivate_within {names : List String} (member : names ∈ touched) :
    Within (ChangesOnly touched) (makePrivate names) := by
  refine within_modify fun disk => ?_
  split
  · exact ChangesOnly.put _ member
  · exact ChangesOnly.refl touched disk

theorem writeAtomic_within {place : Place} (content : ByteArray)
    (member : place.names ∈ touched) (temporaryMember : place.temporary ∈ touched) :
    Within (ChangesOnly touched) (writeAtomic place content) := by
  have replacing : Within (ChangesOnly touched) (do
      makeDirectories [] place.parent
      openFile place.temporary
      overwrite place.temporary content
      rename place.temporary place) :=
    within_bind (makeDirectories_within member (List.dropLast_prefix _)) fun _ =>
      within_bind (openFile_within temporaryMember) fun _ =>
        within_bind (overwrite_within content temporaryMember) fun _ =>
          rename_within temporaryMember member
  unfold writeAtomic
  split
  · exact within_bind (within_throw _) fun _ => replacing
  · exact replacing

theorem touch_within {place : Place} (member : place.names ∈ touched) :
    Within (ChangesOnly touched) (touch place) := by
  have making : ∀ disk : Disk, Within (ChangesOnly touched) (do
      ExceptT.adapt (FileError.creating (disk.shown place)) (openFile place.names)
      modify fun disk => disk.note place.names : Step FileError Unit) :=
    fun disk => within_bind (within_adapt (openFile_within member)) fun _ =>
      within_modify fun disk => ChangesOnly.note member
  refine within_bind within_get fun disk => ?_
  split
  · exact within_pure _
  · refine within_bind
      (within_adapt (makeDirectories_within member (List.dropLast_prefix _))) fun _ => ?_
    split
    · exact within_bind (within_throw _) fun _ => making disk
    · exact making disk

end Writing

end Disk

/-- Another process writes one file. -/
theorem World.deliver_changes (disk : Disk) (delivery : Delivery) :
    Disk.ChangesOnly [delivery.names] disk (deliver disk delivery) :=
  (Disk.ChangesOnly.put _ List.mem_cons_self).trans (Disk.ChangesOnly.note List.mem_cons_self)

end ClusterAgent
