import ClusterAgent.Services.Programs
namespace ClusterAgent

/-! ## Restarting services -/

/-- What restarts the services of a node. Units and services have a common start of their
names. -/
inductive Supervisor
  | external
  | systemd (unitStart : String)
  | openrc (serviceStart : String)
  deriving DecidableEq, Repr

namespace Supervisor

def name : Supervisor → String
  | .external => "none"
  | .systemd _ => "systemd"
  | .openrc _ => "openrc"

open World

/-- Restarts a service; an external supervisor is trusted to do so on its own. -/
def restart (supervisor : Supervisor) (table : Programs.Table) (service : String) :
    Activity RestartError Unit :=
  match supervisor with
  | .external => pure ()
  | .systemd unitStart =>
      ExceptT.adapt (RestartError.mk "systemctl")
        (Programs.runFirst table ["restart", unitStart ++ service]
          ["/usr/bin/systemctl", "/bin/systemctl", "systemctl"])
  | .openrc serviceStart =>
      ExceptT.adapt (RestartError.mk "rc-service")
        (Programs.runFirst table [serviceStart ++ service, "restart"]
          ["/sbin/rc-service", "/usr/sbin/rc-service", "rc-service"])

end Supervisor
end ClusterAgent
