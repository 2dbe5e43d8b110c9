import ClusterAgent.Proofs.Files.Replacing
namespace ClusterAgent
namespace Disk

open Running

/-! ## Texts that are kept -/

/-- The file at the place is there and holds this text. -/
structure Stores (disk : Disk) (place : Place) (text : String) : Prop where
  way : disk.Reaches place.names
  file : ∃ isPrivate, disk.entryAt? place.names = some (.file text.toUTF8 isPrivate)

/-- No touched entry stands at the place or on the way to it. -/
def Clear (touched : List (List String)) (place : Place) : Prop :=
  ∀ names ∈ touched, ¬names <+: place.names

instance (touched : List (List String)) (place : Place) : Decidable (Clear touched place) :=
  inferInstanceAs (Decidable (∀ names ∈ touched, ¬names <+: place.names))

section Keeping

variable {touched : List (List String)} {before after : Disk} {place : Place} {text : String}

namespace ChangesOnly

theorem keeps_front (changes : ChangesOnly touched before after) (clear : Clear touched place)
    {front : List String} (isFront : front <+: place.names) {entry : Entry}
    (present : before.entryAt? front = some entry) : after.entryAt? front = some entry :=
  changes.keeps (fun member => clear front member isFront) present

theorem reaches (changes : ChangesOnly touched before after) (clear : Clear touched place)
    (way : before.Reaches place.names) : after.Reaches place.names := by
  intro front rest partition frontNonempty restNonempty
  have directory := way front rest partition frontNonempty restNonempty
  exact changes.keeps_front clear ⟨rest, partition.symm⟩ directory

theorem stores (changes : ChangesOnly touched before after) (clear : Clear touched place)
    (stored : before.Stores place text) : after.Stores place text := by
  obtain ⟨way, isPrivate, file⟩ := stored
  exact ⟨changes.reaches clear way, isPrivate, changes.keeps_front clear List.prefix_rfl file⟩

/-- What is found stays where it is found. -/
theorem locate_ok (changes : ChangesOnly touched before after)
    {above names : List String} {entry : Entry}
    (clear : ∀ other ∈ touched, ¬other <+: above ++ names)
    (found : before.locate above names = .ok entry) : after.locate above names = .ok entry := by
  induction names generalizing above with
  | nil => exact found
  | cons name rest inductionHypothesis =>
      have onTheWay : above ++ [name] <+: above ++ name :: rest :=
        ⟨rest, by rw [List.append_assoc, List.singleton_append]⟩
      have untouched : above ++ [name] ∉ touched := fun member => clear _ member onTheWay
      rw [Disk.locate] at found ⊢
      rcases here : before.entryAt? (above ++ [name]) with _ | standing
      · rw [here] at found
        cases found
      · rw [here] at found
        rw [changes.keeps untouched here]
        cases standing with
        | directory =>
            rw [← List.singleton_append, ← List.append_assoc] at clear
            exact inductionHypothesis clear found
        | file content isPrivate => exact found

theorem find_file (changes : ChangesOnly touched before after) (clear : Clear touched place)
    {content : ByteArray} {isPrivate : Bool}
    (found : before.find place = .ok (.file content isPrivate)) :
    after.find place = .ok (.file content isPrivate) := by
  obtain ⟨plain, nonempty, way, file⟩ := find_file_iff.mp found
  exact find_file_iff.mpr ⟨plain, nonempty, changes.reaches clear way,
    changes.keeps_front clear List.prefix_rfl file⟩

/-- A text that can be read can be read afterwards. -/
theorem textOf_ok (changes : ChangesOnly touched before after) (clear : Clear touched place)
    (read : before.textOf place = .ok text) : after.textOf place = .ok text := by
  obtain ⟨content, isPrivate, found, decoded⟩ := Disk.textOf_ok read
  have allowed : after.refuses .read place.names = none := by
    rw [changes.refuses]
    exact allowed_of_textOf_ok read
  simp only [Disk.textOf, Disk.contentOf, allowed, changes.find_file clear found, decoded]

/-- Where the way is there, a change beside a place changes nothing that is read there. -/
theorem textOf_beside (changes : ChangesOnly touched before after)
    (way : before.Reaches place.names) (nonempty : place.names ≠ [])
    (clear : Clear touched place) (aside : ∀ names ∈ touched, ¬place.names <+: names) :
    after.textOf place = before.textOf place := by
  have located : after.locate [] place.names = before.locate [] place.names := by
    rw [locate_of_reaches (changes.reaches clear way) nonempty, locate_of_reaches way nonempty,
      changes.entryAt? aside]
  rw [Disk.textOf, Disk.textOf, Disk.contentOf, Disk.contentOf, changes.refuses, Disk.find,
    Disk.find, located]

end ChangesOnly

theorem reaches_pair {disk : Disk} {first second : String}
    (directory : disk.entryAt? [first] = some .directory) : disk.Reaches [first, second] := by
  intro front rest partition frontNonempty restNonempty
  rcases front with _ | ⟨name, front⟩
  · exact absurd rfl frontNonempty
  obtain ⟨rfl, shorter⟩ := List.cons.inj partition
  rcases front with _ | ⟨other, front⟩
  · exact directory
  · obtain ⟨_, gone⟩ := List.cons.inj shorter
    exact absurd (List.append_eq_nil_iff.mp gone.symm).2 restNonempty

theorem allowed_of_textOf_notFound {disk : Disk}
    (missing : disk.textOf place = .error .notFound) :
    disk.refuses .read place.names = none := by
  rcases allowed : disk.refuses .read place.names with _ | reason
  · rfl
  · simp only [Disk.textOf, contentOf, allowed] at missing
    cases missing

theorem readOptional_ok {content : Option String}
    (ran : (readOptional place).run before = (.ok content, after)) :
    after = before ∧ before.refuses .read place.names = none ∧
      ((∃ text, before.textOf place = .ok text ∧ content = some text) ∨
        before.textOf place = .error .notFound ∧ content = none) := by
  rw [run_readOptional] at ran
  obtain ⟨given, rfl⟩ := Prod.mk.inj ran
  rcases read : before.textOf place with error | text
  · rw [read] at given
    dsimp only at given
    split at given
    · rename_i notFound
      subst notFound
      exact ⟨rfl, allowed_of_textOf_notFound read, Or.inr ⟨rfl, (Except.ok.inj given).symm⟩⟩
    · cases given
  · rw [read] at given
    exact ⟨rfl, allowed_of_textOf_ok read, Or.inl ⟨text, rfl, (Except.ok.inj given).symm⟩⟩

theorem Stores.textOf {disk : Disk} (stored : disk.Stores place text)
    (plain : place.asDirectory = false) (nonempty : place.names ≠ [])
    (allowed : disk.refuses .read place.names = none) : disk.textOf place = .ok text := by
  obtain ⟨way, isPrivate, file⟩ := stored
  have found : disk.find place = .ok (.file text.toUTF8 isPrivate) :=
    find_file_iff.mpr ⟨plain, nonempty, way, file⟩
  simp only [Disk.textOf, contentOf, allowed, found, Utf8.decode_toUTF8]

end Keeping

/-! ## Texts that were written -/

section Writing

variable {touched : List (List String)} {before after : Disk} {place : Place} {text : String}

theorem length_temporary (nonempty : place.names ≠ []) :
    place.temporary.length = place.names.length := by
  rcases List.eq_nil_or_concat place.names with empty | ⟨front, last, shape⟩
  · exact absurd empty nonempty
  · simp [Place.temporary, shape]

theorem front_not_mem {front rest : List String} (nonempty : place.names ≠ [])
    (partition : place.names = front ++ rest) (restNonempty : rest ≠ []) :
    front ∉ [place.names, place.temporary] := by
  have restLength : 0 < rest.length := List.length_pos_iff.mpr restNonempty
  have length : place.names.length = front.length + rest.length := by
    rw [partition, List.length_append]
  have temporary := length_temporary nonempty
  intro member
  rcases List.mem_cons.mp member with same | member
  · rw [same] at length
    omega
  · rw [List.mem_singleton.mp member] at length
    omega

/-- Directories on the way stay when only the place is filled. -/
theorem reaches_of_filling (nonempty : place.names ≠ []) (way : before.Reaches place.names)
    (filling : ChangesOnly [place.names, place.temporary] before after) :
    after.Reaches place.names := by
  intro front rest partition frontNonempty restNonempty
  have directory := way front rest partition frontNonempty restNonempty
  exact filling.keeps (front_not_mem nonempty partition restNonempty) directory

theorem reaches_of_made
    (ran : (makeDirectories [] place.parent).run before = (.ok (), after)) :
    after.Reaches place.names := by
  intro front rest partition frontNonempty restNonempty
  have parent : place.parent = front ++ rest.dropLast := by
    rw [Place.parent, partition, List.dropLast_append_of_ne_nil restNonempty]
  exact makeDirectories_ok ran front rest.dropLast parent frontNonempty

theorem nonempty_of_writeAtomic {content : ByteArray}
    (ran : (writeAtomic place content).run before = (.ok (), after)) : place.names ≠ [] := by
  unfold writeAtomic at ran
  split at ran
  · cases ran
  · rename_i nonempty
    simpa using nonempty

theorem plain_of_writeAtomic {content : ByteArray}
    (ran : (writeAtomic place content).run before = (.ok (), after)) :
    place.asDirectory = false := by
  unfold writeAtomic at ran
  split at ran
  · cases ran
  · obtain ⟨_, _, _, ran⟩ := bind_ok ran
    obtain ⟨_, _, _, ran⟩ := bind_ok ran
    obtain ⟨_, _, _, ran⟩ := bind_ok ran
    exact plain_of_rename ran

theorem writeAtomic_reaches {content : ByteArray}
    (ran : (writeAtomic place content).run before = (.ok (), after)) :
    after.Reaches place.names := by
  have nonempty := nonempty_of_writeAtomic ran
  have filling : Within (ChangesOnly [place.names, place.temporary]) (do
      openFile place.temporary
      overwrite place.temporary content
      rename place.temporary place : Step IoError Unit) :=
    within_bind (openFile_within (by simp)) fun _ =>
      within_bind (overwrite_within content (by simp)) fun _ =>
        rename_within (by simp) (by simp)
  unfold writeAtomic at ran
  split at ran
  · cases ran
  · obtain ⟨_, made, ranDirectories, ran⟩ := bind_ok ran
    exact reaches_of_filling nonempty (reaches_of_made ranDirectories) (filling.reaches ran)

theorem writeAtomic_stores
    (ran : (writeAtomic place text.toUTF8).run before = (.ok (), after)) :
    after.Stores place text :=
  ⟨writeAtomic_reaches ran, (writeAtomic_ok ran).1⟩

theorem makePrivate_stores (nonempty : place.names ≠ []) (stored : before.Stores place text)
    (ran : (makePrivate place.names).run before = (.ok (), after)) : after.Stores place text := by
  obtain ⟨way, isPrivate, file⟩ := stored
  have filling : ChangesOnly [place.names, place.temporary] before after :=
    (makePrivate_within List.mem_cons_self).reaches ran
  exact ⟨reaches_of_filling nonempty way filling, true, makePrivate_ok file ran⟩

theorem writeSecret_within (content : ByteArray) (member : place.names ∈ touched)
    (temporaryMember : place.temporary ∈ touched) :
    Within (ChangesOnly touched) (writeSecret place content) :=
  within_bind within_get fun _ => within_adapt
    (within_bind (writeAtomic_within _ member temporaryMember) fun _ => makePrivate_within member)

theorem writeSecret_stores
    (ran : (writeSecret place text.toUTF8).run before = (.ok (), after)) :
    after.Stores place text := by
  obtain ⟨_, _, fetched, ran⟩ := bind_ok ran
  cases fetched
  obtain ⟨_, written, ranWrite, ranPrivate⟩ := bind_ok (adapt_ok ran)
  exact makePrivate_stores (nonempty_of_writeAtomic ranWrite) (writeAtomic_stores ranWrite)
    ranPrivate

/-! ## Markers -/

theorem touch_ok (nonempty : place.names ≠ [])
    (ran : (touch place).run before = (.ok (), after)) : after.holds place = true := by
  obtain ⟨_, _, fetched, ran⟩ := bind_ok ran
  cases fetched
  dsimp only at ran
  split at ran
  · rename_i there
    cases ran
    exact there
  obtain ⟨_, made, ranDirectories, ran⟩ := bind_ok ran
  have way : made.Reaches place.names := reaches_of_made (adapt_ok ranDirectories)
  split at ran
  · cases ran
  rename_i plain
  obtain ⟨_, opened, ranOpen, ran⟩ := bind_ok ran
  cases ran
  have opening : ChangesOnly [place.names, place.temporary] made opened :=
    (openFile_within List.mem_cons_self).reaches (adapt_ok ranOpen)
  have filling : ChangesOnly [place.names, place.temporary] made (opened.note place.names) :=
    opening.trans (ChangesOnly.note List.mem_cons_self)
  obtain ⟨content, isPrivate, file⟩ : ∃ content isPrivate,
      opened.entryAt? place.names = some (.file content isPrivate) := by
    rcases openFile_ok (adapt_ok ranOpen) with ⟨present, rfl⟩ | ⟨_, rfl⟩
    · exact present
    · exact ⟨_, _, entryAt?_put_self made _ _⟩
  have found : (opened.note place.names).find place = .ok (.file content isPrivate) :=
    find_file_iff.mpr ⟨by simpa using plain, nonempty, reaches_of_filling nonempty way filling,
      file⟩
  change (opened.note place.names).holds place = true
  rw [holds, found]

end Writing

end Disk
end ClusterAgent
