import ClusterAgent.Files.Step
import ClusterAgent.Node.Layout
import ClusterAgent.Text.Blank
import ClusterAgent.Text.Lines
namespace ClusterAgent
namespace Flags

/-! ## Flags on lines -/

def isNameEnd (character : Char) : Bool :=
  character == '=' || character == ' '

/-- The name of the flag on a line: what stands before the first equals sign or space. -/
def nameOf (line : List Char) : List Char :=
  line.takeWhile fun character => !isNameEnd character

/-- A flag with its value; an empty value is left out. -/
def lineOf (name value : List Char) : List Char :=
  if value.isEmpty then name else name ++ '=' :: value

/-- The value of `flag` on a line without blanks around it. Of a line with several words only
the last word counts. -/
def valueOn (flag line : List Char) : Option (List Char) :=
  if nameOf line = flag then
    (Text.words line).getLast?.map fun last =>
      match Text.splitOnce '=' last with
      | some (_, value) => value
      | none => if last = flag then [] else last
  else none

/-- The value of a flag in the text of a flag file; nothing when the flag is missing. -/
def value (flag content : List Char) : List Char :=
  ((Text.lines content).findSome? fun line => valueOn flag (Text.trim line)).getD []

/-! ## Changing flags -/

/-- New values for flags, in the order of the flags' names, each name once. -/
abbrev Updates := List (String × String)

/-- Gives a flag its value; a value that it has already is replaced. -/
def Updates.insert (name value : String) : Updates → Updates
  | [] => [(name, value)]
  | (other, kept) :: rest =>
      if name = other then (name, value) :: rest
      else if name < other then (name, value) :: (other, kept) :: rest
      else (other, kept) :: Updates.insert name value rest

def Updates.ofList (items : List (String × String)) : Updates :=
  items.foldl (fun updates item => updates.insert item.1 item.2) []

/-- A line after the change: its flag may be deleted or have a new value. -/
def changeLine (updates : Updates) (deletions : List String) (line : List Char) :
    Option (List Char) :=
  let name := nameOf (Text.trim line)
  if String.ofList name ∈ deletions then none
  else
    match updates.lookup (String.ofList name) with
    | some value => some (lineOf name value.toList)
    | none => some line

/-- The updates that no line has taken up. -/
def remaining (updates : Updates) (deletions : List String) (lines : List (List Char)) :
    Updates :=
  let names := lines.map fun line => String.ofList (nameOf (Text.trim line))
  updates.filter fun update => !(names.contains update.1 || deletions.contains update.1)

/-- Flags are changed where they stand, deletions are dropped and new flags come last. -/
def change (updates : Updates) (deletions : List String) (lines : List (List Char)) :
    List (List Char) :=
  lines.filterMap (changeLine updates deletions) ++
    (remaining updates deletions lines).map fun update =>
      lineOf update.1.toList update.2.toList

/-! ## Flag files -/

open Disk

/-- The value of a flag of a service; nothing when the file, the flag or its value is
missing. -/
def lookup (service flag : String) (disk : Disk) : String :=
  match (readText (Layout.flags service)).run disk with
  | (.ok content, _) => String.ofList (value flag.toList content.toList)
  | (.error _, _) => ""

/-- Changes the flags of a service. Without changes nothing is written. -/
def update (service : String) (updates : Updates) (deletions : List String) :
    Step FileError Unit := do
  if updates.isEmpty && deletions.isEmpty then return
  let place := Layout.flags service
  let disk ← get
  let content ← ExceptT.adapt (FileError.reading (disk.shown place)) (readOptional place)
  let lines := Text.lines (content.getD "").toList
  ExceptT.adapt (FileError.writing (disk.shown place))
    (writeAtomic place (String.ofList (Text.unlines (change updates deletions lines))).toUTF8)

end Flags
end ClusterAgent
