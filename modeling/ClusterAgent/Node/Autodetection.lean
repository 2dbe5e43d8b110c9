import ClusterAgent.Files.Step
import ClusterAgent.Node.Layout
import ClusterAgent.Text.Blank
import ClusterAgent.Text.Lines
namespace ClusterAgent
namespace Autodetection

/-! ## The address hint of the network manifest -/

/-- The name of the hint for the family of an address. -/
def hintFor (host : List Char) : List Char :=
  if ':' ∈ host then "IP6_AUTODETECTION_METHOD".toList else "IP_AUTODETECTION_METHOD".toList

/-- The method that is in force before any peer has joined. -/
def firstFound : List Char := "first-found".toList

def reaching (host : List Char) : List Char := "can-reach=".toList ++ host

def isQuote (character : Char) : Bool :=
  character == '"' || character == '\''

/-- Characters between a name and its value. -/
def isSeparator (character : Char) : Bool :=
  Text.isBlank character || isQuote character || character == ':'

def endsValue (character : Char) : Bool :=
  Text.isBlank character || isQuote character

/-- A text cut around the value that follows a name: what stands before the value, the value
and the rest. -/
structure Cut where
  before : List Char
  value : List Char
  rest : List Char
  deriving DecidableEq, Repr

/-- Separators and what follows them, of which there must be something. -/
def skipSeparators (text : List Char) : Option (List Char × List Char) :=
  match text.dropWhile isSeparator with
  | [] => none
  | rest => some (text.takeWhile isSeparator, rest)

def valueLabel : List Char := "value:".toList

/-- The first value after a name, which stands beside the name or after a label `value:`. -/
def cutValue (text : List Char) : Option Cut := do
  let (before, rest) ← skipSeparators text
  let (before, rest) ←
    match valueLabel.isPrefixOf? rest with
    | none => some (before, rest)
    | some labelled =>
        (skipSeparators labelled).map fun found => (before ++ valueLabel ++ found.1, found.2)
  return ⟨before, rest.takeWhile (!endsValue ·), rest.dropWhile (!endsValue ·)⟩

/-- The manifest in which the hint for the family of `host` leads to `host`, if the hint
still was the first address found. -/
def patch (manifest host : List Char) : Option (List Char) := do
  let hint := hintFor host
  let (before, after) ← Text.splitAtText hint manifest
  let cut ← cutValue after
  if cut.value = firstFound then
    some (before ++ hint ++ cut.before ++ reaching host ++ cut.rest)
  else none

/-! ## The manifest on disk -/

open Disk

/-- Patches the manifest; whether it changed. -/
def patchFile (host : String) : Step FileError Bool := do
  let place := Layout.networkManifest
  let disk ← get
  match ← ExceptT.adapt (FileError.reading (disk.shown place)) (readOptional place) with
  | none => return false
  | some manifest =>
      match patch manifest.toList host.toList with
      | none => return false
      | some patched =>
          ExceptT.adapt (FileError.writing (disk.shown place))
            (writeAtomic place (String.ofList patched).toUTF8)
          return true

end Autodetection
end ClusterAgent
