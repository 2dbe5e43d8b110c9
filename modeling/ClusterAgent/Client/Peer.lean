import ClusterAgent.Join.Protocol
import ClusterAgent.Net.Endpoints
namespace ClusterAgent
namespace Peer

/-! ## The peer that a node joins -/

/-- The address of a join request to a peer, which is given with or without a scheme. -/
def joinUrl (peer : String) (protocol : Join.Protocol) : String :=
  let base := String.ofList (Endpoints.withoutTrailingSlashes peer.toList)
  match Text.splitAtText "://".toList peer.toList with
  | some _ => base ++ protocol.path
  | none => "http://" ++ base ++ protocol.path

/-- The host and port of a peer. -/
def authority (peer : String) : String :=
  String.ofList (Endpoints.withoutTrailingSlashes (Endpoints.withoutScheme peer.toList))

end Peer
end ClusterAgent
