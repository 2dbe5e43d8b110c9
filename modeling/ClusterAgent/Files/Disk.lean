import ClusterAgent.Files.Error
import ClusterAgent.Files.Place
namespace ClusterAgent

/-! ## The content of a data directory -/

inductive Entry
  | directory
  | file (content : ByteArray) (isPrivate : Bool)

/-- Whether two entries are the same, octet for octet. -/
def Entry.sameAs : Entry → Entry → Bool
  | .directory, .directory => true
  | .file content isPrivate, .file other otherPrivate =>
      content.data == other.data && isPrivate == otherPrivate
  | _, _ => false

/-- The steps of file operations that a disk may refuse. -/
inductive Operation
  | read
  | makeDirectory
  | open
  | write
  | rename
  deriving DecidableEq, Repr

/-- A data directory. `root` is its own path as it is shown, `written` names the files that
were written, the latest first, and `refuses` gives the steps that fail for a reason outside
the directory, with that reason. -/
structure Disk where
  root : String
  entries : List (List String × Entry)
  written : List (List String)
  refuses : Operation → List String → Option String

namespace Disk

def empty (root : String) : Disk :=
  ⟨root, [], [], fun _ _ => none⟩

/-- The path of a place as it is shown. -/
def shown (disk : Disk) (place : Place) : String :=
  s!"{disk.root}/{place.text}"

def pathOf (disk : Disk) (names : List String) : String :=
  disk.shown (.of names)

def entryAt? (disk : Disk) (names : List String) : Option Entry :=
  disk.entries.lookup names

/-- The disk with another entry at a place. -/
def put (disk : Disk) (names : List String) (entry : Entry) : Disk :=
  { disk with entries := (names, entry) :: disk.entries.filter fun item => item.1 != names }

/-- The disk without the entry at a place. -/
def remove (disk : Disk) (names : List String) : Disk :=
  { disk with entries := disk.entries.filter fun item => item.1 != names }

/-- The disk after a note that a file was written. -/
def note (disk : Disk) (names : List String) : Disk :=
  { disk with written := names :: disk.written }

/-! ## Entries after a change -/

theorem lookup_filter_ne {entries : List (List String × Entry)} {names other : List String}
    (different : other ≠ names) :
    (entries.filter fun item => item.1 != names).lookup other = entries.lookup other := by
  induction entries with
  | nil => rfl
  | cons item rest inductionHypothesis =>
      obtain ⟨key, entry⟩ := item
      by_cases same : key = names
      · subst same
        have distinct : (other == key) = false := by simpa using different
        simp [List.lookup_cons, distinct, inductionHypothesis]
      · simp [List.lookup_cons, same, inductionHypothesis]

theorem lookup_filter_self (entries : List (List String × Entry)) (names : List String) :
    (entries.filter fun item => item.1 != names).lookup names = none := by
  induction entries with
  | nil => rfl
  | cons item rest inductionHypothesis =>
      obtain ⟨key, entry⟩ := item
      by_cases same : key = names
      · simp [same, inductionHypothesis]
      · have distinct : (names == key) = false := by simpa using fun h => same h.symm
        simp [List.lookup_cons, same, distinct, inductionHypothesis]

@[simp] theorem entryAt?_put_self (disk : Disk) (names : List String) (entry : Entry) :
    (disk.put names entry).entryAt? names = some entry := by
  simp [entryAt?, put]

theorem entryAt?_put_of_ne (disk : Disk) {names other : List String} (entry : Entry)
    (different : other ≠ names) : (disk.put names entry).entryAt? other = disk.entryAt? other := by
  have distinct : (other == names) = false := by simpa using different
  simp [entryAt?, put, List.lookup_cons, distinct, lookup_filter_ne different]

@[simp] theorem entryAt?_remove_self (disk : Disk) (names : List String) :
    (disk.remove names).entryAt? names = none :=
  lookup_filter_self disk.entries names

theorem entryAt?_remove_of_ne (disk : Disk) {names other : List String}
    (different : other ≠ names) : (disk.remove names).entryAt? other = disk.entryAt? other :=
  lookup_filter_ne different

@[simp] theorem entryAt?_note (disk : Disk) (names other : List String) :
    (disk.note names).entryAt? other = disk.entryAt? other :=
  rfl

/-! ## Finding entries -/

/-- The entry that the names lead to from the directory `above`. -/
def locate (disk : Disk) (above : List String) : List String → Except IoError Entry
  | [] => .ok .directory
  | name :: rest =>
      match disk.entryAt? (above ++ [name]) with
      | none => .error .notFound
      | some .directory => disk.locate (above ++ [name]) rest
      | some (.file content isPrivate) =>
          if rest.isEmpty then .ok (.file content isPrivate) else .error .notDirectory

/-- The entry at a place. -/
def find (disk : Disk) (place : Place) : Except IoError Entry :=
  match disk.locate [] place.names with
  | .ok (.file content isPrivate) =>
      if place.asDirectory then .error .notDirectory else .ok (.file content isPrivate)
  | result => result

/-- Whether something is at a place. -/
def holds (disk : Disk) (place : Place) : Bool :=
  match disk.find place with
  | .ok _ => true
  | .error _ => false

/-- The content of the file with these names. -/
def content? (disk : Disk) (names : List String) : Option ByteArray :=
  match disk.entryAt? names with
  | some (.file content _) => some content
  | _ => none

end Disk
end ClusterAgent
