import ClusterAgent.Join.Protocol
import ClusterAgent.Membership.Error
import ClusterAgent.Net.BindAddress
import ClusterAgent.Node.Tokens
namespace ClusterAgent
namespace Join

/-! ## Refusals -/

/-- What kind of failure a refusal is. -/
inductive ErrorKind
  | authentication
  | precondition
  | consistency
  | transientStore
  | internal
  deriving DecidableEq, Repr

def ErrorKind.name : ErrorKind → String
  | .authentication => "Authentication"
  | .precondition => "Precondition"
  | .consistency => "Consistency"
  | .transientStore => "TransientStore"
  | .internal => "Internal"

/-- The status of the HTTP response to a refused join. -/
def ErrorKind.status : ErrorKind → Nat
  | .authentication => 401
  | .precondition => 400
  | .consistency => 409
  | .transientStore => 503
  | .internal => 500

/-- Why a join was refused. -/
inductive Error
  | invalidToken
  | backendMismatch (protocol : Protocol) (backend : Backend)
  | portMismatch (expected got : Nat)
  | selfJoin (address : String)
  | hostnameMismatch (hostname : String) (remote : IpAddress)
  | invalidRequest (text : String)
  | alreadyMember (address : String)
  | bindAddress (cause : BindAddressError)
  | notBootstrap (members : Nat)
  | membershipTimeout (cause : MembershipError)
  | cancelled
  | timeout
  | membership (cause : MembershipError)
  | token (cause : TokenError)
  | state (cause : Report)
  | controlPlaneNodes (cause : KubeError)
  deriving DecidableEq, Repr

namespace Error

def kind : Error → ErrorKind
  | .invalidToken => .authentication
  | .backendMismatch _ _ => .precondition
  | .portMismatch _ _ => .precondition
  | .selfJoin _ => .precondition
  | .hostnameMismatch _ _ => .precondition
  | .invalidRequest _ => .precondition
  | .bindAddress _ => .precondition
  | .alreadyMember _ => .consistency
  | .notBootstrap _ => .consistency
  | .membershipTimeout _ => .transientStore
  | .cancelled => .transientStore
  | .timeout => .transientStore
  | .membership _ => .internal
  | .token _ => .internal
  | .state _ => .internal
  | .controlPlaneNodes _ => .internal

/-- The name by which programs tell refusals apart. -/
def code : Error → String
  | .invalidToken => "invalid_token"
  | .backendMismatch _ _ => "backend_mismatch"
  | .portMismatch _ _ => "port_mismatch"
  | .selfJoin _ => "self_join"
  | .hostnameMismatch _ _ => "hostname_mismatch"
  | .invalidRequest _ => "invalid_request"
  | .alreadyMember _ => "already_member"
  | .bindAddress _ => "bind_address_not_found"
  | .notBootstrap _ => "bootstrap_precondition"
  | .membershipTimeout _ => "membership_timeout"
  | .cancelled => "cancelled"
  | .timeout => "join_timeout"
  | .membership _ => "membership_store"
  | .token _ => "token_store"
  | .state _ => "node_state"
  | .controlPlaneNodes _ => "control_plane_nodes"

def message : Error → String
  | .invalidToken => "invalid or expired cluster token"
  | .backendMismatch protocol backend =>
      s!"not possible to join: this node runs {backend.name} and cannot accept {protocol.name} joins"
  | .portMismatch expected got =>
      s!"cluster agent port mismatch: this node listens on {expected}, joining node uses {got}"
  | .selfJoin address => s!"the joining node has the same address ({address}) as this node"
  | .hostnameMismatch hostname remote => s!"hostname {hostname} does not resolve to {remote}"
  | .invalidRequest text => text
  | .alreadyMember address => s!"the joining node ({address}) is already known to the cluster"
  | .bindAddress cause => s!"cannot determine bind address: {cause.message}"
  | .notBootstrap members =>
      s!"cluster membership changed underneath the join ({members} members)"
  | .membershipTimeout cause => s!"{cause.message}; retry the join"
  | .cancelled => "join cancelled"
  | .timeout => "join timed out; retry the join"
  | .membership cause => cause.message
  | .token cause => cause.message
  | .state cause => cause.line
  | .controlPlaneNodes cause => s!"list control plane nodes: {cause.message}"

/-- A failure of the membership, seen from a join. -/
def ofMembership : MembershipError → Error
  | .notBootstrap members => .notBootstrap members
  | .timeout waited => .membershipTimeout (.timeout waited)
  | .cancelled => .cancelled
  | other => .membership other

end Error
end Join
end ClusterAgent
