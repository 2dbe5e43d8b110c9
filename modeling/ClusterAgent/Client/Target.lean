import ClusterAgent.Net.HostPort
import ClusterAgent.Text.Number
namespace ClusterAgent

/-! ## Where a URL leads -/

/-- The host and port behind a URL, and the path that is asked for there. -/
structure Target where
  host : String
  port : Nat
  path : String
  deriving DecidableEq, Repr

namespace Target

def defaultPort : Nat := 80

/-- The port that is written, or the usual one. -/
def portOf : Option String → Option Nat
  | none => some defaultPort
  | some text => (Text.readUnsigned 10 UInt16.size text.toList).toOption

/-- The target of a URL without encryption. -/
def ofUrl? (url : String) : Option Target := do
  let rest ← "http://".toList.isPrefixOf? url.toList
  let parts := HostPort.split (String.ofList (rest.takeWhile (· != '/')))
  if parts.host.isEmpty then none
  let port ← portOf parts.port
  return ⟨parts.host, port, String.ofList (rest.dropWhile (· != '/'))⟩

/-- The host and port as a request names them. -/
def authority (target : Target) : String :=
  HostPort.join target.host (toString target.port)

end Target
end ClusterAgent
