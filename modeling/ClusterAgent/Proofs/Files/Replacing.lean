import ClusterAgent.Proofs.Files.Footprint
namespace ClusterAgent
namespace Disk

open Running

/-! ## What operations achieve when they succeed -/

section Success

variable {before after : Disk}

theorem attempt_ok {operation : Operation} {names : List String}
    (ran : (attempt operation names).run before = (.ok (), after)) : after = before :=
  ((attempt_within operation names).reaches ran).symm

/-- The directories on the way are there afterwards. -/
theorem makeDirectories_ok {names : List String} :
    ∀ {above : List String} {before : Disk},
      (makeDirectories above names).run before = (.ok (), after) →
        ∀ front rest, names = front ++ rest → front ≠ [] →
          after.entryAt? (above ++ front) = some .directory := by
  induction names with
  | nil =>
      intro above before _ front rest partition nonempty
      exact absurd (List.append_eq_nil_iff.mp partition.symm).1 nonempty
  | cons name names inductionHypothesis =>
      intro above before ran front rest partition nonempty
      obtain ⟨middle, made, later⟩ :
          ∃ middle : Disk,
            middle.entryAt? (above ++ [name]) = some .directory ∧
              (makeDirectories (above ++ [name]) names).run middle = (.ok (), after) := by
        rw [makeDirectories] at ran
        obtain ⟨disk, same, fetched, ran⟩ := bind_ok ran
        cases fetched
        cases found : before.entryAt? (above ++ [name]) with
        | some entry =>
            rw [found] at ran
            cases entry with
            | directory => exact ⟨before, found, ran⟩
            | file content isPrivate => cases ran
        | none =>
            rw [found] at ran
            obtain ⟨_, tried, allowed, ran⟩ := bind_ok ran
            obtain ⟨_, _, changed, ran⟩ := bind_ok ran
            cases changed
            exact ⟨_, entryAt?_put_self tried _ .directory, ran⟩
      cases front with
      | nil => exact absurd rfl nonempty
      | cons first front =>
          obtain ⟨rfl, shorter⟩ := List.cons.inj partition
          cases front with
          | nil =>
              exact ((makeDirectories_opens _ _).reaches later).keeps made
          | cons second front =>
              have reached := inductionHypothesis later (second :: front) rest shorter (by simp)
              simpa only [List.append_assoc, List.singleton_append] using reached

theorem openFile_ok {names : List String}
    (ran : (openFile names).run before = (.ok (), after)) :
    (∃ content isPrivate, before.entryAt? names = some (.file content isPrivate)) ∧
        after = before ∨
      before.entryAt? names = none ∧ after = before.put names (.file .empty false) := by
  obtain ⟨_, middle, tried, ran⟩ := bind_ok ran
  cases attempt_ok tried
  obtain ⟨disk, same, fetched, ran⟩ := bind_ok ran
  cases fetched
  cases found : before.entryAt? names with
  | some entry =>
      rw [found] at ran
      cases entry with
      | directory => cases ran
      | file content isPrivate =>
          cases ran
          exact Or.inl ⟨⟨content, isPrivate, rfl⟩, rfl⟩
  | none =>
      rw [found] at ran
      cases ran
      exact Or.inr ⟨rfl, rfl⟩

theorem overwrite_ok {names : List String} {content old : ByteArray} {isPrivate : Bool}
    (present : before.entryAt? names = some (.file old isPrivate))
    (ran : (overwrite names content).run before = (.ok (), after)) :
    after.entryAt? names = some (.file content isPrivate) ∧
      after.written = names :: before.written := by
  obtain ⟨disk, _, fetched, ran⟩ := bind_ok ran
  cases fetched
  obtain ⟨_, emptied, changed, ran⟩ := bind_ok ran
  cases changed
  obtain ⟨_, tried, allowed, ran⟩ := bind_ok ran
  cases attempt_ok allowed
  cases ran
  rw [present]
  exact ⟨entryAt?_put_self _ names _, rfl⟩

theorem rename_ok {source : List String} {target : Place}
    (ran : (rename source target).run before = (.ok (), after)) :
    ∃ entry,
      before.entryAt? source = some entry ∧
        after = ((before.remove source).put target.names entry).note target.names := by
  obtain ⟨_, _, allowed, ran⟩ := bind_ok ran
  cases attempt_ok allowed
  obtain ⟨_, _, fetched, ran⟩ := bind_ok ran
  cases fetched
  obtain ⟨_, _, fetchedAgain, ran⟩ := bind_ok ran
  cases fetchedAgain
  split at ran
  · cases ran
  · rename_i entry found _
    split at ran
    · cases ran
    · cases ran
      exact ⟨entry, found, rfl⟩
  · cases ran

theorem plain_of_rename {source : List String} {target : Place}
    (ran : (rename source target).run before = (.ok (), after)) : target.asDirectory = false := by
  obtain ⟨_, _, _, ran⟩ := bind_ok ran
  obtain ⟨_, _, _, ran⟩ := bind_ok ran
  obtain ⟨_, _, _, ran⟩ := bind_ok ran
  split at ran
  · cases ran
  · split at ran
    · cases ran
    · rename_i notDirectory
      exact Bool.eq_false_iff.mpr notDirectory
  · cases ran

/-- A file that cannot be moved stays where it is. -/
theorem rename_failed {source : List String} {target : Place} {error : IoError}
    (ran : (rename source target).run before = (.error error, after)) : before = after := by
  rcases bind_error ran with failed | ⟨_, _, allowed, ran⟩
  · exact (attempt_within _ _).reaches failed
  cases attempt_ok allowed
  rcases bind_error ran with failed | ⟨_, _, fetched, ran⟩
  · cases failed
  cases fetched
  rcases bind_error ran with failed | ⟨_, _, fetchedAgain, ran⟩
  · cases failed
  cases fetchedAgain
  split at ran
  · cases ran
    rfl
  · split at ran
    · cases ran
      rfl
    · cases ran
  · cases ran
    rfl

/-! ## Replacing a file as a whole -/

theorem temporary_ne_names {place : Place} (nonempty : place.names ≠ []) :
    place.temporary ≠ place.names := by
  intro same
  rcases List.eq_nil_or_concat place.names with empty | ⟨front, last, shape⟩
  · exact nonempty empty
  · rw [Place.temporary, shape] at same
    simp only [List.concat_eq_append, List.dropLast_concat, List.getLast?_concat,
      Option.toList_some, List.map_cons, List.map_nil, List.append_cancel_left_eq,
      List.cons.injEq, and_true] at same
    have longer := congrArg String.length same
    simp at longer

/-- The file holds the new content, and the file beside it is gone. -/
theorem writeAtomic_ok {place : Place} {content : ByteArray}
    (ran : (writeAtomic place content).run before = (.ok (), after)) :
    (∃ isPrivate, after.entryAt? place.names = some (.file content isPrivate)) ∧
      after.entryAt? place.temporary = none ∧
      after.written = place.names :: place.temporary :: before.written := by
  obtain ⟨nonempty, ran⟩ :
      place.names ≠ [] ∧
        (do
          makeDirectories [] place.parent
          openFile place.temporary
          overwrite place.temporary content
          rename place.temporary place : Step IoError Unit).run before = (.ok (), after) := by
    unfold writeAtomic at ran
    split at ran
    · cases ran
    · rename_i nonempty
      exact ⟨by simpa using nonempty, ran⟩
  have distinct := temporary_ne_names nonempty
  obtain ⟨_, made, ranDirectories, ran⟩ := bind_ok ran
  obtain ⟨_, opened, ranOpen, ran⟩ := bind_ok ran
  obtain ⟨_, full, ranOverwrite, ranRename⟩ := bind_ok ran
  have madeWritten : made.written = before.written :=
    ((makeDirectories_opens _ _).reaches ranDirectories).written
  obtain ⟨⟨old, isPrivate, present⟩, openedWritten⟩ :
      (∃ old isPrivate, opened.entryAt? place.temporary = some (.file old isPrivate)) ∧
        opened.written = made.written := by
    rcases openFile_ok ranOpen with ⟨present, rfl⟩ | ⟨_, rfl⟩
    · exact ⟨present, rfl⟩
    · exact ⟨⟨_, _, entryAt?_put_self made _ _⟩, rfl⟩
  obtain ⟨written, fullWritten⟩ := overwrite_ok present ranOverwrite
  obtain ⟨entry, moved, rfl⟩ := rename_ok ranRename
  rw [written] at moved
  cases moved
  refine ⟨⟨isPrivate, ?_⟩, ?_, ?_⟩
  · rw [entryAt?_note, entryAt?_put_self]
  · rw [entryAt?_note, entryAt?_put_of_ne _ _ distinct, entryAt?_remove_self]
  · change place.names :: full.written = _
    rw [fullWritten, openedWritten, madeWritten]

/-- A replacement that fails has at most left something beside the file. -/
theorem writeAtomic_failed {place : Place} {content : ByteArray} {error : IoError}
    (ran : (writeAtomic place content).run before = (.error error, after)) :
    ChangesOnly [place.temporary] before after := by
  have onTheWay : place.parent <+: place.temporary := List.prefix_append _ _
  have replacing (ran : (do
      makeDirectories [] place.parent
      openFile place.temporary
      overwrite place.temporary content
      rename place.temporary place : Step IoError Unit).run before = (.error error, after)) :
      ChangesOnly [place.temporary] before after := by
    rcases bind_error ran with failed | ⟨_, made, ranDirectories, ran⟩
    · exact (makeDirectories_within List.mem_cons_self onTheWay).reaches failed
    have making : ChangesOnly [place.temporary] before made :=
      (makeDirectories_within List.mem_cons_self onTheWay).reaches ranDirectories
    rcases bind_error ran with failed | ⟨_, opened, ranOpen, ran⟩
    · exact making.trans ((openFile_within List.mem_cons_self).reaches failed)
    have opening := making.trans ((openFile_within List.mem_cons_self).reaches ranOpen)
    rcases bind_error ran with failed | ⟨_, full, ranOverwrite, ran⟩
    · exact opening.trans ((overwrite_within content List.mem_cons_self).reaches failed)
    rw [← rename_failed ran]
    exact opening.trans ((overwrite_within content List.mem_cons_self).reaches ranOverwrite)
  unfold writeAtomic at ran
  split at ran
  · cases ran
    exact ChangesOnly.refl _ _
  · exact replacing ran

/-- A file that is there becomes private and keeps its content. -/
theorem makePrivate_ok {names : List String} {content : ByteArray} {isPrivate : Bool}
    (present : before.entryAt? names = some (.file content isPrivate))
    (ran : (makePrivate names).run before = (.ok (), after)) :
    after.entryAt? names = some (.file content true) := by
  cases ran
  simp only [present]
  exact entryAt?_put_self _ _ _

end Success

end Disk
end ClusterAgent
