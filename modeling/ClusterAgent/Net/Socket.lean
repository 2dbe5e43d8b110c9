import ClusterAgent.Net.Ip.Parser
namespace ClusterAgent

/-! ## Socket addresses -/

/-- An address with a port and, in the larger family, the number of a zone. -/
structure SocketAddress where
  address : IpAddress
  port : Nat
  zone : Nat
  deriving DecidableEq, Repr

namespace SocketAddress

open IpAddress

/-- A colon and a port number, in which leading zeros are allowed. -/
def readPort : Reader Nat :=
  readSeparated ':' false (readNumber 10 none true UInt16.size)

def readZone : Reader Nat :=
  readSeparated '%' false (readNumber 10 none true UInt32.size)

def readV4Socket : Reader SocketAddress := fun text => do
  let (bits, text) ← readV4 text
  let (port, text) ← readPort text
  return (⟨.v4 bits, port, 0⟩, text)

def readV6Socket : Reader SocketAddress := fun text => do
  let ((), text) ← readChar '[' text
  let (bits, text) ← readV6 text
  let (zone, text) := (readZone text).getD (0, text)
  let ((), text) ← readChar ']' text
  let (port, text) ← readPort text
  return (⟨.v6 bits, port, zone⟩, text)

/-- The socket address that a text writes: `a.b.c.d:port`, `[address]:port` or
`[address%zone]:port`. -/
def ofText? (text : String) : Option SocketAddress :=
  (readAll readV4Socket text.toList).orElse fun _ => readAll readV6Socket text.toList

def toText (socket : SocketAddress) : String :=
  match socket.address with
  | .v4 _ => s!"{socket.address}:{socket.port}"
  | .v6 _ =>
      if socket.zone = 0 then s!"[{socket.address}]:{socket.port}"
      else s!"[{socket.address}%{socket.zone}]:{socket.port}"

end SocketAddress
end ClusterAgent
