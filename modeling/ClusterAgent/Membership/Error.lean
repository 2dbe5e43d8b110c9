import ClusterAgent.Files.Error
import ClusterAgent.Services.Error
namespace ClusterAgent

/-! ## Membership errors -/

/-- Why the membership of the store could not be read, changed or awaited. `waited` is in
milliseconds. -/
inductive MembershipError
  | io (path : String) (cause : IoError)
  | parse (path : String)
  | notBootstrap (members : Nat)
  | invalidAddress (address : String)
  | restart (cause : RestartError)
  | timeout (waited : Nat)
  | cancelled
  deriving DecidableEq, Repr

namespace MembershipError

def message : MembershipError → String
  | .io path cause => s!"membership file {path}: {cause.message}"
  | .parse path => s!"parse membership file {path}"
  | .notBootstrap members => s!"membership is not a single loopback-bound node ({members} members)"
  | .invalidAddress address => s!"membership address without port: {address}"
  | .restart cause => s!"restart storage service: {cause.message}"
  | .timeout waited => s!"membership did not converge within {waited / 1000}s"
  | .cancelled => "membership wait cancelled"

def cause? : MembershipError → Option String
  | .io _ cause => some cause.message
  | .restart cause => some cause.message
  | _ => none

end MembershipError
end ClusterAgent
