import ClusterAgent.Proofs.Files.Renewing
import ClusterAgent.Proofs.Text.Lines
namespace ClusterAgent
namespace Disk

open Running

/-! ## Texts without carriage returns -/

/-- The file with these names holds no carriage return if it is there and holds text. -/
def ReturnFreeAt (disk : Disk) (names : List String) : Prop :=
  ∀ content isPrivate text, disk.fileAt? names = some (content, isPrivate) →
    Utf8.decode content = .ok text → '\r' ∉ text.toList

theorem ReturnFreeAt.returnFree {disk : Disk} {place : Place}
    (free : disk.ReturnFreeAt place.names) : disk.ReturnFree place := by
  intro text read
  obtain ⟨content, isPrivate, found, decoded⟩ := textOf_ok read
  obtain ⟨_, _, _, entry⟩ := find_file_iff.mp found
  exact free content isPrivate text (fileAt?_of_entry entry) decoded

theorem ReturnFreeAt.of_changes {touched : List (List String)} {before after : Disk}
    {names : List String} (free : before.ReturnFreeAt names)
    (changes : ChangesOnly touched before after) (untouched : names ∉ touched) :
    after.ReturnFreeAt names := by
  intro content isPrivate text file
  rw [changes.fileAt? untouched] at file
  exact free content isPrivate text file

/-- Whether an entry that holds text holds no carriage return. -/
def isReturnFree : Entry → Bool
  | .directory => true
  | .file content _ =>
      match Utf8.decode content with
      | .ok text => !text.toList.contains '\r'
      | .error _ => true

theorem returnFreeAt_of_entries {disk : Disk}
    (free : ∀ item ∈ disk.entries, isReturnFree item.2 = true) (names : List String) :
    disk.ReturnFreeAt names := by
  intro content isPrivate text file decoded
  rw [fileAt?] at file
  split at file
  · rename_i found
    cases file
    obtain ⟨front, back, shape, _⟩ := List.lookup_eq_some_iff.mp found
    have entryFree := free (names, .file content isPrivate) (by rw [shape]; simp)
    simpa [isReturnFree, decoded] using entryFree
  · cases file

/-! ## Files that stand apart -/

/-- No file of one list is one of the other or stands on the way to one. -/
def Separate (touched others : List (List String)) : Prop :=
  ∀ names ∈ touched, ∀ other ∈ others, ¬names <+: other ∧ ¬other <+: names

instance (touched others : List (List String)) : Decidable (Separate touched others) :=
  inferInstanceAs
    (Decidable (∀ names ∈ touched, ∀ other ∈ others, ¬names <+: other ∧ ¬other <+: names))

namespace Separate

variable {touched others wider : List (List String)} {place : Place}

theorem symm (separate : Separate touched others) : Separate others touched :=
  fun other isOther names member => (separate names member other isOther).symm

theorem subset (separate : Separate wider others) (included : touched ⊆ wider) :
    Separate touched others :=
  fun names member => separate names (included member)

theorem not_mem (separate : Separate touched others) {names : List String}
    (member : names ∈ touched) : names ∉ others :=
  fun isOther => (separate names member names isOther).1 List.prefix_rfl

theorem clear (separate : Separate touched others) (member : place.names ∈ touched) :
    Clear others place :=
  fun other isOther => (separate _ member other isOther).2

theorem aside (separate : Separate touched others) {names : List String}
    (member : names ∈ touched) : ∀ other ∈ others, ¬names <+: other :=
  fun other isOther => (separate names member other isOther).1

end Separate

/-! ## Actions that can be repeated -/

/-- From a disk that is ready the action succeeds and leaves one that is. A disk stays ready when
files change that stand apart from those that the action touches, and these are the same on all
disks that are ready. -/
structure Readies {ε : Type} (touched : List (List String)) (action : Step ε Unit)
    (Ready : Disk → Prop) : Prop where
  works : Works Ready action
  lasts : ∀ {others before after}, Separate touched others → ChangesOnly others before after →
    Ready before → Ready after
  same : ∀ {one other}, Ready one → Ready other →
    ∀ names ∈ touched, other.content? names = one.content? names

/-- The action changes only the files that it touches. Where they hold no carriage return and it
succeeds, it leaves a disk that is ready for it. -/
structure Repeatable {ε : Type} (touched : List (List String)) (action : Step ε Unit) :
    Prop where
  within : Within (ChangesOnly touched) action
  readies : ∀ {before after}, (∀ names ∈ touched, before.ReturnFreeAt names) →
    action.run before = (.ok (), after) → ∃ Ready, Readies touched action Ready ∧ Ready after

section Composing

variable {ε δ α : Type} {touched later wider : List (List String)} {action next : Step ε Unit}
  {before after : Disk}

theorem content?_of_fileAt? {names : List String}
    (same : after.fileAt? names = before.fileAt? names) :
    after.content? names = before.content? names := by
  have content (disk : Disk) : disk.content? names = (disk.fileAt? names).map Prod.fst := by
    rw [content?, fileAt?]
    rcases disk.entryAt? names with _ | (_ | _) <;> rfl
  rw [content, content, same]

/-- What was done can be done once more, and then no file has another content. -/
theorem Repeatable.again (repeatable : Repeatable touched action)
    (free : ∀ names ∈ touched, before.ReturnFreeAt names)
    (ran : action.run before = (.ok (), after)) :
    ∃ again, action.run after = (.ok (), again) ∧
      ∀ names, again.content? names = after.content? names := by
  obtain ⟨Ready, readies, ready⟩ := repeatable.readies free ran
  obtain ⟨_, again, ranAgain, readyAgain⟩ := readies.works after ready
  refine ⟨again, ranAgain, fun names => ?_⟩
  by_cases member : names ∈ touched
  · exact readies.same ready readyAgain names member
  · exact content?_of_fileAt? ((repeatable.within.reaches ranAgain).fileAt? member)

/-- Two actions that touch files apart from each other can be repeated in a row. -/
theorem Repeatable.bind (first : Repeatable touched action) (second : Repeatable later next)
    (separate : Separate touched later) :
    Repeatable (touched ++ later) (action >>= fun _ => next) where
  within := within_bind (within_mono first.within fun _ _ changes =>
      changes.mono (List.subset_append_left _ _)) fun _ =>
    within_mono second.within fun _ _ changes => changes.mono (List.subset_append_right _ _)
  readies := by
    intro before after free ran
    obtain ⟨_, middle, ranFirst, ranSecond⟩ := bind_ok ran
    have toMiddle := first.within.reaches ranFirst
    have toAfter := second.within.reaches ranSecond
    obtain ⟨ReadyFirst, readiesFirst, readyMiddle⟩ :=
      first.readies (fun names member => free names (List.mem_append_left _ member)) ranFirst
    obtain ⟨ReadySecond, readiesSecond, readyAfter⟩ := second.readies
      (fun names member => (free names (List.mem_append_right _ member)).of_changes toMiddle
        (separate.symm.not_mem member)) ranSecond
    refine ⟨fun disk => ReadyFirst disk ∧ ReadySecond disk, ⟨?_, ?_, ?_⟩,
      readiesFirst.lasts separate toAfter readyMiddle, readyAfter⟩
    -- Each action leaves the disk ready for itself, and what it changes is apart from the other.
    · rintro disk ⟨readyFirst, readySecond⟩
      obtain ⟨_, between, again, betweenFirst⟩ := readiesFirst.works disk readyFirst
      have betweenSecond := readiesSecond.lasts separate.symm (first.within.reaches again)
        readySecond
      obtain ⟨_, last, againSecond, lastSecond⟩ := readiesSecond.works between betweenSecond
      refine ⟨(), last, ?_, ?_, lastSecond⟩
      · rw [run_bind, again]
        exact againSecond
      · exact readiesFirst.lasts separate (second.within.reaches againSecond) betweenFirst
    · rintro others start finish apart changes ⟨readyFirst, readySecond⟩
      exact ⟨readiesFirst.lasts (apart.subset (List.subset_append_left _ _)) changes readyFirst,
        readiesSecond.lasts (apart.subset (List.subset_append_right _ _)) changes readySecond⟩
    · rintro one other ⟨oneFirst, oneSecond⟩ ⟨otherFirst, otherSecond⟩ names member
      rcases List.mem_append.mp member with inFirst | inSecond
      · exact readiesFirst.same oneFirst otherFirst names inFirst
      · exact readiesSecond.same oneSecond otherSecond names inSecond

/-- An action may touch less than it is said to. -/
theorem Repeatable.mono (repeatable : Repeatable touched action) (included : touched ⊆ wider) :
    Repeatable wider action where
  within := within_mono repeatable.within fun _ _ changes => changes.mono included
  readies := by
    intro before after free ran
    obtain ⟨Ready, readies, ready⟩ :=
      repeatable.readies (fun names member => free names (included member)) ran
    -- What the action does not touch is to be as it was left.
    refine ⟨fun disk => Ready disk ∧ ∀ names ∈ wider, names ∉ touched →
      disk.content? names = after.content? names, ⟨?_, ?_, ?_⟩, ready, fun _ _ _ => rfl⟩
    · rintro disk ⟨readyDisk, kept⟩
      obtain ⟨_, again, ranAgain, readyAgain⟩ := readies.works disk readyDisk
      refine ⟨(), again, ranAgain, readyAgain, fun names member untouched => ?_⟩
      exact (content?_of_fileAt? ((repeatable.within.reaches ranAgain).fileAt? untouched)).trans
        (kept names member untouched)
    · rintro others start finish apart changes ⟨readyStart, kept⟩
      refine ⟨readies.lasts (apart.subset included) changes readyStart,
        fun names member untouched => ?_⟩
      exact (content?_of_fileAt? (changes.fileAt? (apart.not_mem member))).trans
        (kept names member untouched)
    · rintro one other ⟨readyOne, keptOne⟩ ⟨readyOther, keptOther⟩ names member
      by_cases inTouched : names ∈ touched
      · exact readies.same readyOne readyOther names inTouched
      · exact (keptOther names member inTouched).trans (keptOne names member inTouched).symm

theorem repeatable_pure : Repeatable [] (pure () : Step ε Unit) where
  within := within_pure ()
  readies := fun _ _ => ⟨fun _ => True,
    ⟨works_pure (), fun _ _ _ => trivial, fun _ _ _ member => absurd member List.not_mem_nil⟩,
    trivial⟩

theorem repeatable_throw (touched : List (List String)) (error : ε) :
    Repeatable touched (throw error : Step ε Unit) where
  within := within_throw error
  readies := fun _ ran => nomatch ran

theorem repeatable_adapt {change : ε → δ} (repeatable : Repeatable touched action) :
    Repeatable touched (ExceptT.adapt change action) where
  within := within_adapt repeatable.within
  readies := by
    intro before after free ran
    obtain ⟨Ready, readies, ready⟩ := repeatable.readies free (adapt_ok ran)
    exact ⟨Ready, ⟨works_adapt readies.works, readies.lasts, readies.same⟩, ready⟩

/-- Where only the report of a failure depends on the disk, the disk does not matter. -/
theorem repeatable_reported {report : Disk → ε → δ} (repeatable : Repeatable touched action) :
    Repeatable touched (get >>= fun disk => ExceptT.adapt (report disk) action) where
  within := within_bind within_get fun _ => within_adapt repeatable.within
  readies := by
    intro before after free ran
    obtain ⟨_, _, fetched, ran⟩ := bind_ok ran
    cases fetched
    obtain ⟨Ready, readies, ready⟩ := repeatable.readies free (adapt_ok ran)
    exact ⟨Ready, ⟨works_bind works_get fun _ => works_adapt readies.works, readies.lasts,
      readies.same⟩, ready⟩

/-- What is decided without a look at the disk is decided in the same way again. -/
theorem repeatable_given {given : Except ε α} {rest : α → Step ε Unit}
    (repeatable : ∀ value, given = .ok value → Repeatable touched (rest value)) :
    Repeatable touched ((ExceptT.mk (pure given) : Step ε α) >>= rest) := by
  cases given with
  | error error => exact repeatable_throw touched error
  | ok value => exact repeatable value rfl

end Composing

/-! ## One file -/

/-- The file at the place can be replaced again and holds this text, on a disk that refuses no
other operations. -/
structure Holding (place : Place) (text : String)
    (refuses : Operation → List String → Option String) (disk : Disk) : Prop where
  renewable : Renewable place disk
  stores : disk.Stores place text
  refuses : disk.refuses = refuses

section Single

variable {ε : Type} {place : Place} {text : String} {action : Step ε Unit} {before after : Disk}

theorem Holding.textOf {refuses : Operation → List String → Option String}
    (holding : Holding place text refuses before) (reads : refuses .read place.names = none) :
    before.textOf place = .ok text :=
  holding.stores.textOf holding.renewable.plain holding.renewable.nonempty
    (by rw [holding.refuses]; exact reads)

/-- An action on one file can be repeated when it leaves a text there that it leaves again where
it finds it. -/
theorem repeatable_of_holding
    (within : Within (ChangesOnly [place.names, place.temporary]) action)
    (leaves : ∀ {before after}, before.ReturnFree place →
      action.run before = (.ok (), after) → ∃ text,
        Renewable place after ∧ after.Stores place text ∧
          ∀ disk, Holding place text after.refuses disk →
            ∃ again, action.run disk = (.ok (), again) ∧ Renewable place again ∧
              again.Stores place text) :
    Repeatable [place.names, place.temporary] action where
  within := within
  readies := by
    intro before after free ran
    obtain ⟨text, renewable, stores, again⟩ :=
      leaves (free place.names List.mem_cons_self).returnFree ran
    have target : place.names ∈ [place.names, place.temporary] := List.mem_cons_self
    have beside : place.temporary ∈ [place.names, place.temporary] := by simp
    refine ⟨Holding place text after.refuses, ⟨?_, ?_, ?_⟩, renewable, stores, rfl⟩
    · intro disk holding
      obtain ⟨last, ranAgain, renewableAgain, storesAgain⟩ := again disk holding
      exact ⟨(), last, ranAgain, renewableAgain, storesAgain,
        (within.reaches ranAgain).refuses.trans holding.refuses⟩
    · intro others start finish apart changes holding
      exact ⟨holding.renewable.of_changes changes (apart.clear target) (apart.aside beside),
        changes.stores (apart.clear target) holding.stores,
        changes.refuses.trans holding.refuses⟩
    · intro one other holdingOne holdingOther names member
      rcases List.mem_cons.mp member with rfl | member
      · obtain ⟨_, file⟩ := holdingOne.stores.file
        obtain ⟨_, fileOther⟩ := holdingOther.stores.file
        rw [content?, content?, file, fileOther]
      · rw [List.mem_singleton.mp member, content?, content?, holdingOne.renewable.beside,
          holdingOther.renewable.beside]

theorem repeatable_writeAtomic (place : Place) (text : String) :
    Repeatable [place.names, place.temporary] (writeAtomic place text.toUTF8) := by
  refine repeatable_of_holding (writeAtomic_within _ (by simp) (by simp)) fun _ ran => ?_
  refine ⟨text, renewable_of_writeAtomic ran, writeAtomic_stores ran, fun disk holding => ?_⟩
  obtain ⟨_, again, ranAgain, renewable⟩ := writeAtomic_renews place text disk holding.renewable
  exact ⟨again, ranAgain, renewable, writeAtomic_stores ranAgain⟩

theorem repeatable_writeSecret (place : Place) (text : String) :
    Repeatable [place.names, place.temporary] (writeSecret place text.toUTF8) := by
  refine repeatable_of_holding (writeSecret_within _ (by simp) (by simp)) fun _ ran => ?_
  refine ⟨text, (writeSecret_ok ran).1, writeSecret_stores ran, fun disk holding => ?_⟩
  obtain ⟨_, again, ranAgain, renewable⟩ := writeSecret_renews place text disk holding.renewable
  exact ⟨again, ranAgain, renewable, writeSecret_stores ranAgain⟩

end Single

/-! ## Lines that are read and written again -/

/-- The characters of the text at a place; a text that cannot be read has none. -/
def characters (place : Place) (disk : Disk) : List Char :=
  match disk.textOf place with
  | .ok text => text.toList
  | .error _ => []

/-- The action reads the lines of a text and writes what `change` makes of them. It succeeds where
the text can be read and replaced. -/
structure ChangesLines {ε : Type} (place : Place) (change : List (List Char) → List (List Char))
    (action : Step ε Unit) : Prop where
  within : Within (ChangesOnly [place.names, place.temporary]) action
  leaves : ∀ {before after}, action.run before = (.ok (), after) →
    before.refuses .read place.names = none ∧ Renewable place after ∧
      after.Stores place
        (String.ofList (Text.unlines (change (Text.lines (characters place before)))))
  runs : ∀ {disk text}, Renewable place disk → disk.textOf place = .ok text →
    ∃ after, action.run disk = (.ok (), after)

/-- What the change makes of the lines of a text are lines, and it makes nothing else of them when
they are read again. -/
def Settles (change : List (List Char) → List (List Char)) : Prop :=
  ∀ text : List Char, '\r' ∉ text →
    (∀ line ∈ change (Text.lines text), '\n' ∉ line) ∧
      change ((change (Text.lines text)).map Text.withoutReturn) = change (Text.lines text)

section Lines

variable {ε : Type} {place : Place} {change : List (List Char) → List (List Char)}
  {action : Step ε Unit} {disk : Disk}

theorem return_not_mem_characters (free : disk.ReturnFree place) :
    '\r' ∉ characters place disk := by
  rw [characters]
  split
  · rename_i text read
    exact free text read
  · exact List.not_mem_nil

theorem ChangesLines.repeatable (changes : ChangesLines place change action)
    (settles : Settles change) : Repeatable [place.names, place.temporary] action := by
  refine repeatable_of_holding changes.within fun {before after} free ran => ?_
  obtain ⟨reads, renewable, stores⟩ := changes.leaves ran
  rw [← (changes.within.reaches ran).refuses] at reads
  refine ⟨_, renewable, stores, fun disk holding => ?_⟩
  have read := holding.textOf reads
  obtain ⟨again, ranAgain⟩ := changes.runs holding.renewable read
  obtain ⟨_, renewableAgain, storesAgain⟩ := changes.leaves ranAgain
  obtain ⟨noFeed, settled⟩ := settles _ (return_not_mem_characters free)
  have sameLines : change (Text.lines (characters place disk)) =
      change (Text.lines (characters place before)) := by
    rw [characters, read]
    dsimp only
    rw [String.toList_ofList, Text.lines_unlines noFeed, settled]
  rw [sameLines] at storesAgain
  exact ⟨again, ranAgain, renewableAgain, storesAgain⟩

end Lines

/-! ## Markers -/

section Markers

variable {place : Place}

/-- What is at the place of a marker is found there again. -/
theorem repeatable_touch (plain : place.asDirectory = false) (nonempty : place.names ≠ []) :
    Repeatable [place.names] (touch place) where
  within := touch_within List.mem_cons_self
  readies := by
    intro before after _ ran
    obtain ⟨entry, found⟩ := (holds_iff plain).mp (touch_ok nonempty ran)
    refine ⟨fun disk => disk.locate [] place.names = .ok entry, ⟨?_, ?_, ?_⟩, found⟩
    · intro disk there
      refine ⟨(), disk, ?_, there⟩
      rw [touch, run_bind, run_get]
      dsimp only
      rw [if_pos ((holds_iff plain).mpr ⟨entry, there⟩)]
      rfl
    · intro others start finish apart changes there
      have clear : Clear others place := apart.clear List.mem_cons_self
      exact changes.locate_ok clear there
    · intro one other thereOne thereOther names member
      have entryOne : one.entryAt? place.names = some entry :=
        entryAt?_of_locate nonempty thereOne
      have entryOther : other.entryAt? place.names = some entry :=
        entryAt?_of_locate nonempty thereOther
      rw [List.mem_singleton.mp member, content?, content?, entryOne, entryOther]

end Markers

end Disk
end ClusterAgent
