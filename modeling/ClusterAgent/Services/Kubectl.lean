import ClusterAgent.Services.Programs
namespace ClusterAgent

/-! ## The cluster's command line tool -/

/-- The program that reaches the cluster, and the label of control plane nodes. -/
structure Kubectl where
  program : String
  label : String
  deriving DecidableEq, Repr

namespace Kubectl

open World

/-- The query for the addresses of nodes inside the cluster. -/
def addressQuery : String :=
  "jsonpath=\x7b.items[*].status.addresses[?(@.type==\"InternalIP\")].address\x7d"

def apply (kubectl : Kubectl) (table : Programs.Table) (manifest : String) :
    Activity KubeError Unit :=
  ExceptT.adapt KubeError.mk
    (Programs.runFirst table ["apply", "-f", manifest] [kubectl.program])

/-- The addresses of the control plane nodes. -/
def listNodes (kubectl : Kubectl) (table : Programs.Table) : Activity KubeError (List String) := do
  let text ← ExceptT.adapt KubeError.mk
    (Programs.outputOf table kubectl.program
      ["get", "nodes", s!"-l={kubectl.label}", "-o", addressQuery])
  return (Text.words text.toList).map String.ofList

end Kubectl
end ClusterAgent
