import ClusterAgent.Files.Disk
namespace ClusterAgent
namespace Disk

/-! ## File operations -/

/-- An operation that changes the data directory and may fail; a failure keeps the changes
made before it. -/
abbrev Step (ε α : Type) := ExceptT ε (StateM Disk) α

/-- Fails when the disk refuses the operation. -/
def attempt (operation : Operation) (names : List String) : Step IoError Unit := do
  match (← get).refuses operation names with
  | some reason => throw (.other reason)
  | none => pure ()

/-- The content of a file. -/
def read (place : Place) : Step IoError ByteArray := do
  attempt .read place.names
  match (← get).find place with
  | .error error => throw error
  | .ok .directory => throw .isDirectory
  | .ok (.file content _) => pure content

/-- The text of a file, all of which must be text. -/
def readText (place : Place) : Step IoError String := do
  let content ← read place
  match Utf8.decode content with
  | .error _ => throw .notText
  | .ok text => pure text

/-- The text of a file unless the file is missing. -/
def readOptional (place : Place) : Step IoError (Option String) :=
  tryCatch (some <$> readText place) fun error =>
    if error = .notFound then pure none else throw error

/-- Makes the directories on the way from `above`, those that are missing. -/
def makeDirectories (above : List String) : List String → Step IoError Unit
  | [] => pure ()
  | name :: rest => do
      let here := above ++ [name]
      match (← get).entryAt? here with
      | some .directory => makeDirectories here rest
      | some (.file _ _) => throw (if rest.isEmpty then .occupied else .notDirectory)
      | none =>
          attempt .makeDirectory here
          modify fun disk => disk.put here .directory
          makeDirectories here rest

/-- Makes sure that a file exists, in a directory that does. -/
def openFile (names : List String) : Step IoError Unit := do
  attempt .open names
  match (← get).entryAt? names with
  | some .directory => throw .isDirectory
  | some (.file _ _) => pure ()
  | none => modify fun disk => disk.put names (.file .empty false)

/-- Replaces the content of a file that exists; the file stays as private as it was. -/
def overwrite (names : List String) (content : ByteArray) : Step IoError Unit := do
  let isPrivate :=
    match (← get).entryAt? names with
    | some (.file _ isPrivate) => isPrivate
    | _ => false
  modify fun disk => disk.put names (.file .empty isPrivate)
  attempt .write names
  modify fun disk => (disk.put names (.file content isPrivate)).note names

/-- Moves a file onto a place. -/
def rename (source : List String) (target : Place) : Step IoError Unit := do
  attempt .rename target.names
  match (← get).entryAt? target.names, (← get).entryAt? source with
  | some .directory, _ => throw .isDirectory
  | _, some entry =>
      if target.asDirectory then throw .notDirectory
      else modify fun disk => ((disk.remove source).put target.names entry).note target.names
  | _, none => throw .notFound

/-- Keeps a file from other users, if it is there. -/
def makePrivate (names : List String) : Step IoError Unit :=
  modify fun disk =>
    match disk.entryAt? names with
    | some (.file content _) => disk.put names (.file content true)
    | _ => disk

/-! ## Replacing a file as a whole -/

/-- Writes a file so that a reader sees the old content or the new one: the new content is
written beside the file and takes its place. Missing directories are made. -/
def writeAtomic (place : Place) (content : ByteArray) : Step IoError Unit := do
  if place.names.isEmpty then throw .notDirectory
  makeDirectories [] place.parent
  openFile place.temporary
  overwrite place.temporary content
  rename place.temporary place

/-- Makes an empty file unless something is at the place. -/
def touch (place : Place) : Step FileError Unit := do
  let disk ← get
  if disk.holds place then return
  ExceptT.adapt (FileError.creating (disk.pathOf place.parent))
    (makeDirectories [] place.parent)
  if place.asDirectory then throw (.creating (disk.shown place) .isDirectory)
  ExceptT.adapt (FileError.creating (disk.shown place)) (openFile place.names)
  modify fun disk => disk.note place.names

/-- Replaces a file that other users may not read. -/
def writeSecret (place : Place) (content : ByteArray) : Step FileError Unit := do
  let disk ← get
  ExceptT.adapt (FileError.writing (disk.shown place)) do
    writeAtomic place content
    makePrivate place.names

/-- The content of a file as text. -/
def readWhole (place : Place) : Step FileError String := do
  let disk ← get
  let content ← ExceptT.adapt (FileError.reading (disk.shown place)) (read place)
  match Utf8.decode content with
  | .error fault => throw (.notText (disk.shown place) fault)
  | .ok text => pure text

end Disk
end ClusterAgent
