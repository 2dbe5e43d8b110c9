import ClusterAgent.Files.Place
namespace ClusterAgent
namespace Layout

/-! ## Where a node keeps its state -/

def clusterTokens : Place := .of ["credentials", "cluster-tokens.txt"]
def certificateRequestTokens : Place := .of ["credentials", "certs-request-tokens.txt"]
def callbackTokens : Place := .of ["credentials", "callback-tokens.txt"]
def callbackToken : Place := .of ["credentials", "callback-token.txt"]
def tokensLock : Place := .of ["credentials", ".tokens.lock"]
def knownTokens : Place := .of ["credentials", "known_tokens.csv"]
def workerTokens : Place := .of ["credentials", "worker-cert-tokens.txt"]
def authorityCertificate : Place := .of ["certs", "ca.crt"]
def authorityKey : Place := .of ["certs", "ca.key"]
def serviceAccountKey : Place := .of ["certs", "serviceaccount.key"]
def serverCertificate : Place := .of ["certs", "server.crt"]
def serverKey : Place := .of ["certs", "server.key"]
def networkManifest : Place := .of ["args", "cni-network", "cni.yaml"]
def membership : Place := .of ["var", "kubernetes", "backend", "cluster.yaml"]
def addressUpdate : Place := .of ["var", "kubernetes", "backend", "update.yaml"]
def storeCertificate : Place := .of ["var", "kubernetes", "backend", "cluster.crt"]
def storeKey : Place := .of ["var", "kubernetes", "backend", "cluster.key"]
def replicatedStoreMarker : Place := .of ["var", "lock", "ha-cluster"]
def noReissueMarker : Place := .of ["var", "lock", "no-cert-reissue"]

/-- The directories in which all of this stands. -/
def directories : List (List String) :=
  [["credentials"], ["certs"], ["args"], ["var", "kubernetes", "backend"], ["var", "lock"]]

/-- The flag file of a service. -/
def flags (service : String) : Place := .under ["args"] service

end Layout
end ClusterAgent
