import ClusterAgent.Text.Blank
import ClusterAgent.Text.Lines
namespace ClusterAgent

/-! ## Host and port -/

/-- The two parts of an address in text, of which the port may be missing. -/
structure HostPort where
  host : String
  port : Option String
  deriving DecidableEq, Repr

namespace HostPort

/-- The text when it is not empty. -/
def nonempty (text : List Char) : Option (List Char) :=
  if text.isEmpty then none else some text

/-- The host and port of an address without blanks around it. A host in brackets ends at
the first closing bracket; without brackets there is a port only if the text has exactly
one colon, so that a bare address with several colons is all host. -/
def splitTrimmed (text : List Char) : List Char × Option (List Char) :=
  match text with
  | '[' :: rest =>
      match Text.splitOnce ']' rest with
      | some (host, ':' :: port) => (host, nonempty port)
      | some (host, _) => (host, none)
      | none => (text, none)
  | _ =>
      match Text.splitOnce ':' text with
      | some (host, port) => if ':' ∈ port then (text, none) else (host, nonempty port)
      | none => (text, none)

/-- Reads `host:port`, `[host]:port`, a bare host or a bare address with colons, with any
blanks around it. -/
def split (text : String) : HostPort :=
  let parts := splitTrimmed (Text.trim text.toList)
  ⟨String.ofList parts.1, parts.2.map String.ofList⟩

/-- Writes host and port; a host with a colon stands in brackets. -/
def join (host port : String) : String :=
  if ':' ∈ host.toList then "[" ++ host ++ "]:" ++ port else host ++ ":" ++ port

end HostPort
end ClusterAgent
