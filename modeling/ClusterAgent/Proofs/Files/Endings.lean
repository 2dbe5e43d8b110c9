import ClusterAgent.Proofs.Files.Storing
namespace ClusterAgent
namespace Disk

open Running

/-! ## How operations on one file end -/

/-- How an operation on the file at a place ends. A failure has at most left something beside the
file. An operation that succeeds has written nothing, or the file is now the one that `gives`
names for its answer, by its content and whether it is private, and nothing is left beside it.
Files among `others` may have changed in any case. -/
inductive Ending {ε α : Type} (place : Place) (others : List (List String))
    (gives : α → Option (ByteArray × Bool) → Prop) (before : Disk) : Except ε α × Disk → Prop
  | failed {error : ε} {after : Disk}
      (changes : ChangesOnly (place.temporary :: others) before after) :
      Ending place others gives before (.error error, after)
  | unwritten {value : α} {after : Disk} (given : gives value none)
      (changes : ChangesOnly others before after) :
      Ending place others gives before (.ok value, after)
  | written {value : α} {file : ByteArray × Bool} {after : Disk} (given : gives value (some file))
      (stored : after.fileAt? place.names = some file)
      (gone : after.entryAt? place.temporary = none)
      (changes : ChangesOnly (place.names :: place.temporary :: others) before after) :
      Ending place others gives before (.ok value, after)

/-- From every disk, whatever it holds and refuses, the operation replaces the file as a whole or
leaves it. -/
def ReplacesWhole {ε α : Type} (place : Place) (others : List (List String))
    (gives : Disk → α → Option (ByteArray × Bool) → Prop) (step : Step ε α) : Prop :=
  ∀ before, Ending place others (gives before) before (step.run before)

section Composing

variable {ε δ α β : Type} {place : Place} {others : List (List String)}
  {gives : α → Option (ByteArray × Bool) → Prop} {before middle after : Disk}

namespace Ending

theorem error_changes {error : ε}
    (ending : Ending place others gives before (.error error, after)) :
    ChangesOnly (place.temporary :: others) before after := by
  cases ending with
  | failed changes => exact changes

theorem stored {value : α} {file : ByteArray × Bool}
    (ending : Ending place others (fun _ given => given = some file) before
      ((.ok value : Except ε α), after)) :
    after.fileAt? place.names = some file := by
  cases ending with
  | unwritten given => cases given
  | written given stored => exact stored.trans given

theorem imp {wider : α → Option (ByteArray × Bool) → Prop} {outcome : Except ε α × Disk}
    (ending : Ending place others gives before outcome)
    (implies : ∀ value file, gives value file → wider value file) :
    Ending place others wider before outcome := by
  cases ending with
  | failed changes => exact .failed changes
  | unwritten given changes => exact .unwritten (implies _ _ given) changes
  | written given stored gone changes => exact .written (implies _ _ given) stored gone changes

/-- What happens before may change files among the others. -/
theorem of_earlier {outcome : Except ε α × Disk} (earlier : ChangesOnly others before middle)
    (ending : Ending place others gives middle outcome) :
    Ending place others gives before outcome := by
  cases ending with
  | failed changes => exact .failed ((earlier.mono (by simp)).trans changes)
  | unwritten given changes => exact .unwritten given (earlier.trans changes)
  | written given stored gone changes =>
      exact .written given stored gone ((earlier.mono (by simp)).trans changes)

/-- An operation may begin with one that changes nothing. -/
theorem bind_still {first : Step ε β} {rest : β → Step ε α} (still : Within Eq first)
    (ends : ∀ value, first.run before = (.ok value, before) →
      Ending place others gives before ((rest value).run before)) :
    Ending place others gives before ((first >>= rest).run before) := by
  have same := still before
  rw [run_bind]
  rcases ran : first.run before with ⟨error | value, middle⟩
  · rw [ran] at same
    cases same
    exact .failed (ChangesOnly.refl _ _)
  · rw [ran] at same
    cases same
    exact ends value ran

theorem adapt {change : ε → δ} {step : Step ε α}
    (ending : Ending place others gives before (step.run before)) :
    Ending place others gives before ((ExceptT.adapt change step).run before) := by
  rw [run_adapt]
  rcases ran : step.run before with ⟨error | value, after⟩
  · rw [ran] at ending
    exact .failed ending.error_changes
  · rw [ran] at ending
    cases ending with
    | unwritten given changes => exact .unwritten given changes
    | written given stored gone changes => exact .written given stored gone changes

/-- The answer may be given anew when all is done. -/
theorem bind_pure {step : Step ε β} {answer : β → α}
    (ending : Ending place others (fun value => gives (answer value)) before (step.run before)) :
    Ending place others gives before
      ((step >>= fun value => (pure (answer value) : Step ε α)).run before) := by
  rw [run_bind]
  rcases ran : step.run before with ⟨error | value, after⟩
  · rw [ran] at ending
    exact .failed ending.error_changes
  · rw [ran] at ending
    cases ending with
    | unwritten given changes => exact .unwritten given changes
    | written given stored gone changes => exact .written given stored gone changes

end Ending

end Composing

/-! ## Replacements -/

section Replacing

variable (place : Place) (content : ByteArray) (others : List (List String))

theorem writeAtomic_ends :
    ReplacesWhole place others (fun _ _ file => file.map Prod.fst = some content)
      (writeAtomic place content) := by
  intro before
  rcases ran : (writeAtomic place content).run before with ⟨error | _, after⟩
  · exact .failed ((writeAtomic_failed ran).mono (by simp))
  · obtain ⟨⟨isPrivate, present⟩, gone, _⟩ := writeAtomic_ok ran
    exact .written rfl (fileAt?_of_entry present) gone
      ((writeAtomic_within content (by simp) (by simp)).reaches ran)

/-- A file that is kept from other users once it is written. -/
theorem writePrivate_ends :
    ReplacesWhole place others (fun _ _ file => file = some (content, true))
      (do
        writeAtomic place content
        makePrivate place.names : Step IoError Unit) := by
  intro before
  rw [run_bind]
  rcases ran : (writeAtomic place content).run before with ⟨error | _, written⟩
  · exact .failed ((writeAtomic_failed ran).mono (by simp))
  · obtain ⟨⟨isPrivate, present⟩, gone, _⟩ := writeAtomic_ok ran
    dsimp only
    rcases closing : (makePrivate place.names).run written with ⟨error | ⟨⟩, after⟩
    · cases closing
    · have distinct := temporary_ne_names (nonempty_of_writeAtomic ran)
      have closed : Within (ChangesOnly (place.names :: place.temporary :: others))
          (makePrivate place.names) := makePrivate_within (by simp)
      have writing : ChangesOnly (place.names :: place.temporary :: others) before written :=
        (writeAtomic_within content (by simp) (by simp)).reaches ran
      refine .written rfl (fileAt?_of_entry (makePrivate_ok present closing)) ?_
        (writing.trans (closed.reaches closing))
      cases closing
      simp only [present]
      exact (entryAt?_put_of_ne _ _ distinct).trans gone

end Replacing

end Disk
end ClusterAgent
