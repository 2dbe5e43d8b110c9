import ClusterAgent.Files.Step
import ClusterAgent.Proofs.Running
namespace ClusterAgent
namespace Disk

open Running

/-! ## The way to a file -/

/-- The directories on the way to a place are there. -/
def Reaches (disk : Disk) (names : List String) : Prop :=
  ∀ front rest, names = front ++ rest → front ≠ [] → rest ≠ [] →
    disk.entryAt? front = some .directory

/-- The way to a place is the way to what stands beside it. -/
theorem Reaches.beside {disk : Disk} {parent : List String} {name : String}
    (way : disk.Reaches (parent ++ [name])) (other : String) :
    disk.Reaches (parent ++ [other]) := by
  intro front rest partition frontNonempty restNonempty
  have onTheWay : parent = front ++ rest.dropLast := by
    have shorter := congrArg List.dropLast partition
    rwa [List.dropLast_concat, List.dropLast_append_of_ne_nil restNonempty] at shorter
  refine way front (rest.dropLast ++ [name]) ?_ frontNonempty (by simp)
  rw [onTheWay, List.append_assoc]

section Locating

variable {disk : Disk} {content : ByteArray} {isPrivate : Bool}

/-- Every directory on the way from `above` is there. -/
private def Open (disk : Disk) (above names : List String) : Prop :=
  ∀ front rest, names = front ++ rest → front ≠ [] → rest ≠ [] →
    disk.entryAt? (above ++ front) = some .directory

private theorem open_tail {above : List String} {name : String} {rest : List String}
    (way : Open disk above (name :: rest)) : Open disk (above ++ [name]) rest := by
  intro front later partition frontNonempty laterNonempty
  have whole := way (name :: front) later (by rw [partition, List.cons_append]) (by simp)
    laterNonempty
  simpa only [List.append_assoc, List.singleton_append] using whole

/-- Where the way is open, what is found is the entry with all the names. -/
theorem locate_of_open {above names : List String} (way : Open disk above names)
    (nonempty : names ≠ []) :
    disk.locate above names =
      match disk.entryAt? (above ++ names) with
      | none => .error .notFound
      | some entry => .ok entry := by
  induction names generalizing above with
  | nil => exact absurd rfl nonempty
  | cons name rest inductionHypothesis =>
      cases rest with
      | nil =>
          rw [locate]
          rcases found : disk.entryAt? (above ++ [name]) with _ | entry
          · rfl
          · cases entry with
            | directory => rfl
            | file content isPrivate => rfl
      | cons next rest =>
          have directory := way [name] (next :: rest) rfl (by simp) (by simp)
          rw [locate, directory]
          have later := inductionHypothesis (open_tail way) (by simp)
          simpa only [List.append_assoc, List.singleton_append] using later

theorem locate_of_reaches {names : List String} (way : Reaches disk names)
    (nonempty : names ≠ []) :
    disk.locate [] names =
      match disk.entryAt? names with
      | none => .error .notFound
      | some entry => .ok entry :=
  locate_of_open way nonempty

/-- A file is found only under its own names and through directories. -/
theorem open_of_locate {above names : List String}
    (found : disk.locate above names = .ok (.file content isPrivate)) :
    names ≠ [] ∧ Open disk above names ∧
      disk.entryAt? (above ++ names) = some (.file content isPrivate) := by
  induction names generalizing above with
  | nil => cases found
  | cons name rest inductionHypothesis =>
      rw [locate] at found
      refine ⟨by simp, ?_⟩
      rcases here : disk.entryAt? (above ++ [name]) with _ | entry
      · rw [here] at found
        cases found
      · rw [here] at found
        cases entry with
        | directory =>
            obtain ⟨nonempty, way, entry⟩ := inductionHypothesis found
            constructor
            · intro front later partition frontNonempty laterNonempty
              cases front with
              | nil => exact absurd rfl frontNonempty
              | cons first front =>
                  obtain ⟨rfl, shorter⟩ := List.cons.inj partition
                  cases front with
                  | nil => exact here
                  | cons second front =>
                      have reached :=
                        way (second :: front) later shorter (by simp) laterNonempty
                      simpa only [List.append_assoc, List.singleton_append] using reached
            · simpa only [List.append_assoc, List.singleton_append] using entry
        | file other otherPrivate =>
            cases rest with
            | nil =>
                cases found
                refine ⟨?_, here⟩
                intro front later partition frontNonempty laterNonempty
                cases front with
                | nil => exact absurd rfl frontNonempty
                | cons first front =>
                    obtain ⟨_, shorter⟩ := List.cons.inj partition
                    exact absurd (List.append_eq_nil_iff.mp shorter.symm).2 laterNonempty
            | cons next rest => cases found

theorem entryAt?_of_locate {above names : List String} {entry : Entry} (nonempty : names ≠ [])
    (found : disk.locate above names = .ok entry) :
    disk.entryAt? (above ++ names) = some entry := by
  induction names generalizing above with
  | nil => exact absurd rfl nonempty
  | cons name rest inductionHypothesis =>
      rw [locate] at found
      rcases here : disk.entryAt? (above ++ [name]) with _ | standing
      · rw [here] at found
        cases found
      · rw [here] at found
        cases standing with
        | directory =>
            cases rest with
            | nil =>
                cases found
                exact here
            | cons next rest =>
                rw [← List.singleton_append, ← List.append_assoc]
                exact inductionHypothesis (List.cons_ne_nil _ _) found
        | file content isPrivate =>
            cases rest with
            | nil =>
                cases found
                exact here
            | cons next rest => cases found

theorem find_file_iff {place : Place} :
    disk.find place = .ok (.file content isPrivate) ↔
      place.asDirectory = false ∧ place.names ≠ [] ∧ Reaches disk place.names ∧
        disk.entryAt? place.names = some (.file content isPrivate) := by
  constructor
  · intro found
    rw [find] at found
    split at found
    · rename_i other otherPrivate located
      split at found
      · cases found
      · rename_i plain
        cases found
        obtain ⟨nonempty, way, entry⟩ := open_of_locate located
        exact ⟨by simpa using plain, nonempty, way, entry⟩
    · rename_i notFile
      exact absurd found (notFile content isPrivate)
  · rintro ⟨plain, nonempty, way, entry⟩
    have located := locate_of_reaches way nonempty
    rw [entry] at located
    simp only [find, located, plain, Bool.false_eq_true, if_false]

theorem holds_iff {place : Place} (plain : place.asDirectory = false) :
    disk.holds place = true ↔ ∃ entry, disk.locate [] place.names = .ok entry := by
  rw [holds, find]
  rcases disk.locate [] place.names with error | found
  · simp
  · cases found
    · simp
    · simp [plain]

theorem absent_of_find {place : Place} (way : Reaches disk place.names)
    (nonempty : place.names ≠ []) (missing : disk.find place = .error .notFound) :
    disk.entryAt? place.names = none := by
  have located := locate_of_reaches way nonempty
  rcases present : disk.entryAt? place.names with _ | entry
  · rfl
  · rw [present] at located
    simp only [find, located] at missing
    split at missing
    · split at missing <;> cases missing
    · cases missing

end Locating

/-! ## What reading gives -/

/-- The content that reading a place gives. -/
def contentOf (disk : Disk) (place : Place) : Except IoError ByteArray :=
  match disk.refuses .read place.names with
  | some reason => .error (.other reason)
  | none =>
      match disk.find place with
      | .error error => .error error
      | .ok .directory => .error .isDirectory
      | .ok (.file content _) => .ok content

/-- The text that reading a place gives. -/
def textOf (disk : Disk) (place : Place) : Except IoError String :=
  match disk.contentOf place with
  | .error error => .error error
  | .ok content =>
      match Utf8.decode content with
      | .error _ => .error .notText
      | .ok text => .ok text

/-- No carriage return is in the text at the place, if there is one. -/
def ReturnFree (disk : Disk) (place : Place) : Prop :=
  ∀ text, disk.textOf place = .ok text → '\r' ∉ text.toList

section Contents

variable {disk : Disk} {place : Place}

theorem run_attempt (operation : Operation) (names : List String) (disk : Disk) :
    (attempt operation names).run disk =
      (match disk.refuses operation names with
        | some reason => .error (.other reason)
        | none => .ok (), disk) := by
  rw [attempt, run_bind, run_get]
  dsimp only
  rcases disk.refuses operation names with _ | reason <;> rfl

theorem run_read (place : Place) (disk : Disk) :
    (read place).run disk = (disk.contentOf place, disk) := by
  rw [read, run_bind, run_attempt, contentOf]
  rcases disk.refuses .read place.names with _ | reason
  · simp only [run_bind, run_get]
    rcases disk.find place with error | entry
    · rfl
    · cases entry <;> rfl
  · rfl

theorem run_readText (place : Place) (disk : Disk) :
    (readText place).run disk = (disk.textOf place, disk) := by
  rw [readText, run_bind, run_read, textOf]
  rcases disk.contentOf place with error | content
  · rfl
  · dsimp only
    rcases Utf8.decode content with fault | text <;> rfl

theorem run_readOptional (place : Place) (disk : Disk) :
    (readOptional place).run disk =
      (match disk.textOf place with
        | .ok text => .ok (some text)
        | .error error => if error = .notFound then .ok none else .error error, disk) := by
  rw [readOptional, run_tryCatch, map_eq_pure_bind, run_bind, run_readText]
  rcases disk.textOf place with error | text
  · dsimp only
    split <;> rfl
  · rfl

theorem run_readWhole (place : Place) (disk : Disk) :
    (readWhole place).run disk =
      (match disk.contentOf place with
        | .error error => .error (.reading (disk.shown place) error)
        | .ok content =>
            match Utf8.decode content with
            | .error fault => .error (.notText (disk.shown place) fault)
            | .ok text => .ok text, disk) := by
  rw [readWhole, run_bind, run_get]
  dsimp only
  rw [run_bind, run_adapt, run_read]
  rcases disk.contentOf place with error | content
  · rfl
  · dsimp only [Except.mapError]
    rcases Utf8.decode content with fault | text <;> rfl

theorem readWhole_ok {text : String} (ran : (readWhole place).run disk = (.ok text, disk)) :
    disk.textOf place = .ok text := by
  rw [run_readWhole] at ran
  rw [textOf]
  rcases content : disk.contentOf place with error | octets
  · rw [content] at ran
    cases ran
  · rw [content] at ran
    dsimp only at ran ⊢
    rcases decoded : Utf8.decode octets with fault | read
    · rw [decoded] at ran
      cases ran
    · rw [decoded] at ran
      cases ran
      rfl

theorem readWhole_iff {text : String} :
    (readWhole place).run disk = (.ok text, disk) ↔ disk.textOf place = .ok text := by
  refine ⟨readWhole_ok, fun read => ?_⟩
  rw [run_readWhole]
  rw [textOf] at read
  rcases content : disk.contentOf place with error | octets
  · rw [content] at read
    cases read
  · rw [content] at read
    dsimp only at read ⊢
    rcases decoded : Utf8.decode octets with fault | found
    · rw [decoded] at read
      cases read
    · rw [decoded] at read
      cases read
      rfl

theorem contentOf_ok {content : ByteArray} (read : disk.contentOf place = .ok content) :
    ∃ isPrivate, disk.find place = .ok (.file content isPrivate) := by
  rw [contentOf] at read
  split at read
  · cases read
  · split at read
    · cases read
    · cases read
    · rename_i found
      cases read
      exact ⟨_, found⟩

theorem textOf_ok {text : String} (read : disk.textOf place = .ok text) :
    ∃ content isPrivate,
      disk.find place = .ok (.file content isPrivate) ∧ Utf8.decode content = .ok text := by
  rw [textOf] at read
  split at read
  · cases read
  · rename_i content given
    obtain ⟨isPrivate, found⟩ := contentOf_ok given
    split at read
    · cases read
    · rename_i decoded
      cases read
      exact ⟨content, isPrivate, found, decoded⟩

theorem entry_of_textOf_ok {text : String} (read : disk.textOf place = .ok text) :
    ∃ content isPrivate, disk.entryAt? place.names = some (.file content isPrivate) := by
  obtain ⟨content, isPrivate, found, _⟩ := textOf_ok read
  obtain ⟨_, _, _, entry⟩ := find_file_iff.mp found
  exact ⟨content, isPrivate, entry⟩

theorem allowed_of_textOf_ok {text : String} (read : disk.textOf place = .ok text) :
    disk.refuses .read place.names = none := by
  rcases allowed : disk.refuses .read place.names with _ | reason
  · rfl
  · simp only [textOf, contentOf, allowed] at read
    cases read

/-- Only a file that is not there is said to be missing. -/
theorem find_of_textOf_notFound (missing : disk.textOf place = .error .notFound) :
    disk.find place = .error .notFound := by
  rcases given : disk.contentOf place with error | content
  · simp only [textOf, given] at missing
    cases missing
    rw [contentOf] at given
    split at given
    · cases given
    · split at given
      · rename_i found
        cases given
        exact found
      · cases given
      · cases given
  · simp only [textOf, given] at missing
    split at missing <;> cases missing

end Contents

end Disk
end ClusterAgent
