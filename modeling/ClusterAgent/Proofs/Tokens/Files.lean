import ClusterAgent.Proofs.Files.Endings
import ClusterAgent.Proofs.Tokens.Entries
namespace ClusterAgent
namespace Tokens

open Disk Running

/-! ## The content of token files -/

/-- The lines of a file; none if it is not there or is no text. -/
def linesAt (disk : Disk) (names : List String) : List (List Char) :=
  match disk.fileAt? names with
  | some (content, _) =>
      match Utf8.decode content with
      | .ok text => Text.lines text.toList
      | .error _ => []
  | none => []

/-- The entries in a token file, in their order. -/
def entriesIn (kind : Kind) (disk : Disk) : List Entry :=
  (linesAt disk kind.place.names).map Entry.ofLine

theorem linesAt_congr {before after : Disk} {names : List String}
    (same : after.fileAt? names = before.fileAt? names) :
    linesAt after names = linesAt before names := by
  rw [linesAt, linesAt, same]

theorem feed_not_mem_linesAt (disk : Disk) (names : List String) :
    ∀ line ∈ linesAt disk names, '\n' ∉ line := by
  rw [linesAt]
  split
  · split
    · exact Text.feed_not_mem_lines _
    · simp
  · simp

/-- The lines of a file that was written, up to carriage returns at their ends. -/
theorem linesAt_of_unlines {disk : Disk} {names : List String} {items : List (List Char)}
    {isPrivate : Bool} (noFeed : ∀ line ∈ items, '\n' ∉ line)
    (file : disk.fileAt? names = some ((String.ofList (Text.unlines items)).toUTF8, isPrivate)) :
    linesAt disk names = items.map Text.withoutReturn := by
  rw [linesAt, file]
  simp only [Utf8.decode_toUTF8, String.toList_ofList]
  exact Text.lines_unlines noFeed

theorem entriesIn_of_unlines {disk : Disk} {kind : Kind} {items : List (List Char)}
    {isPrivate : Bool} (noFeed : ∀ line ∈ items, '\n' ∉ line)
    (file : disk.fileAt? kind.place.names =
      some ((String.ofList (Text.unlines items)).toUTF8, isPrivate)) :
    entriesIn kind disk = items.map Entry.ofLine := by
  rw [entriesIn, linesAt_of_unlines noFeed file, List.map_map]
  exact List.map_congr_left fun line _ => ofLine_withoutReturn line

/-! ## The token directory -/

/-- A file in the directory of the tokens. -/
structure IsTokenFile (place : Place) : Prop where
  plain : place.asDirectory = false
  name : ∃ name, place.names = ["credentials", name]

theorem IsTokenFile.nonempty {place : Place} (tokenFile : IsTokenFile place) :
    place.names ≠ [] := by
  obtain ⟨name, shape⟩ := tokenFile.name
  rw [shape]
  exact List.cons_ne_nil _ _

theorem isTokenFile_place (kind : Kind) : IsTokenFile kind.place := by
  cases kind
  · exact ⟨rfl, _, rfl⟩
  · exact ⟨rfl, _, rfl⟩

theorem reaches_of_tokenFile {disk : Disk} {place : Place} (tokenFile : IsTokenFile place)
    (directory : disk.entryAt? ["credentials"] = some .directory) :
    Reaches disk place.names := by
  obtain ⟨name, shape⟩ := tokenFile.name
  intro front rest partition frontNonempty restNonempty
  rw [shape] at partition
  cases front with
  | nil => exact absurd rfl frontNonempty
  | cons first front =>
      obtain ⟨rfl, shorter⟩ := List.cons.inj partition
      cases front with
      | nil => exact directory
      | cons second front =>
          obtain ⟨_, empty⟩ := List.cons.inj shorter
          exact absurd (List.append_eq_nil_iff.mp empty.symm).2 restNonempty

/-! ## Parts of token operations -/

section Parts

variable {touched : List (List String)} {before after : Disk}

theorem takeLock_within (member : Layout.tokensLock.names ∈ touched) :
    Within (ChangesOnly touched) takeLock :=
  within_bind within_get fun _ => within_adapt
    (within_bind (makeDirectories_within member (List.dropLast_prefix _)) fun _ =>
      openFile_within member)

/-- Once the lock is taken the directory of the tokens is there. -/
theorem takeLock_ok (ran : takeLock.run before = (.ok (), after)) :
    after.entryAt? ["credentials"] = some .directory := by
  obtain ⟨_, _, fetched, ran⟩ := bind_ok ran
  cases fetched
  obtain ⟨_, made, ranDirectories, ranOpen⟩ := bind_ok (adapt_ok ran)
  have directory := makeDirectories_ok ranDirectories ["credentials"] [] rfl (by simp)
  have opened : ChangesOnly [Layout.tokensLock.names] made after :=
    (openFile_within List.mem_cons_self).reaches ranOpen
  exact opened.keeps (by decide) directory

theorem readLines_within (place : Place) : Within Eq (readLines place) :=
  within_bind within_get fun _ =>
    within_bind (within_adapt (readOptional_within place)) fun _ => within_pure _

theorem readLines_ok {place : Place} {lines : Option (List (List Char))}
    (tokenFile : IsTokenFile place)
    (directory : before.entryAt? ["credentials"] = some .directory)
    (ran : (readLines place).run before = (.ok lines, after)) :
    after = before ∧ lines.getD [] = linesAt before place.names := by
  refine ⟨((readLines_within place).reaches ran).symm, ?_⟩
  obtain ⟨_, _, fetched, ran⟩ := bind_ok ran
  cases fetched
  obtain ⟨text, _, ranRead, ran⟩ := bind_ok ran
  cases ran
  have given := adapt_ok ranRead
  rw [run_readOptional] at given
  have way := reaches_of_tokenFile tokenFile directory
  rcases read : before.textOf place with error | content
  · rw [read] at given
    dsimp only at given
    split at given
    · rename_i notFound
      cases given
      subst notFound
      have absent := absent_of_find way tokenFile.nonempty (find_of_textOf_notFound read)
      rw [linesAt, fileAt?_of_absent absent]
      rfl
    · cases given
  · rw [read] at given
    cases given
    obtain ⟨octets, isPrivate, found, decoded⟩ := textOf_ok read
    have entry := (find_file_iff.mp found).2.2.2
    rw [linesAt, fileAt?_of_entry entry]
    simp only [decoded]
    rfl

theorem write_within {place : Place} (text : List Char) (member : place.names ∈ touched)
    (temporaryMember : place.temporary ∈ touched) :
    Within (ChangesOnly touched) (write place text) :=
  within_bind within_get fun _ => within_adapt
    (within_bind (writeAtomic_within _ member temporaryMember) fun _ => makePrivate_within member)

/-- Token files are secrets, and are written as such. -/
theorem write_iff {place : Place} {text : List Char} :
    (write place text).run before = (.ok (), after) ↔
      (writeSecret place (String.ofList text).toUTF8).run before = (.ok (), after) := by
  rw [write, writeSecret, run_bind, run_bind, run_get, run_get]
  dsimp only
  rw [run_adapt, run_adapt]
  rcases (do
    writeAtomic place (String.ofList text).toUTF8
    makePrivate place.names : Step IoError Unit).run before with ⟨error | _, written⟩
  · exact ⟨nofun, nofun⟩
  · constructor
    · rintro ⟨⟩
      rfl
    · rintro ⟨⟩
      rfl

theorem write_ends (place : Place) (text : List Char) (others : List (List String)) :
    ReplacesWhole place others (fun _ _ file => file = some ((String.ofList text).toUTF8, true))
      (write place text) := fun before =>
  Ending.bind_still within_get fun _ _ => (writePrivate_ends place _ others before).adapt

end Parts

end Tokens
end ClusterAgent
