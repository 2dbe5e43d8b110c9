import ClusterAgent.Json.Value
namespace ClusterAgent
namespace Join

/-! ## Join responses -/

/-- What a new member of the control plane receives. -/
structure MemberCredentials where
  voters : Option (List String)
  serviceAccountKey : String
  adminToken : String
  authorityKey : String
  clusterCertificate : String
  clusterKey : String
  etcdServers : Option String
  deriving DecidableEq, Repr

/-- What a joining node receives beyond what all receive. A worker never gets a key. -/
inductive Credentials
  | member (credentials : MemberCredentials)
  | worker (controlPlaneNodes : List String)
  deriving DecidableEq, Repr

structure Response where
  authority : String
  callbackToken : String
  apiPort : String
  authorizationMode : String
  kubeletFlags : String
  hostnameOverride : Option String
  credentials : Credentials
  deriving DecidableEq, Repr

def MemberCredentials.members (credentials : MemberCredentials) : List (String × Json) :=
  [("voters", .optional (credentials.voters.map .texts)),
    ("service_account_key", .text credentials.serviceAccountKey),
    ("admin_token", .text credentials.adminToken),
    ("ca_key", .text credentials.authorityKey),
    ("cluster_cert", .text credentials.clusterCertificate),
    ("cluster_key", .text credentials.clusterKey)] ++
    (credentials.etcdServers.map fun servers => ("etcd_servers", Json.text servers)).toList

def Credentials.members : Credentials → List (String × Json)
  | .member credentials => credentials.members
  | .worker nodes => [("control_plane_nodes", .texts nodes)]

/-- The response as a body. -/
def Response.toJson (response : Response) : Json :=
  .object (
    [("ca", .text response.authority), ("callback_token", .text response.callbackToken),
      ("apiport", .text response.apiPort),
      ("api_authz_mode", .text response.authorizationMode),
      ("kubelet_args", .text response.kubeletFlags),
      ("hostname_override", .optional (response.hostnameOverride.map .text))] ++
      response.credentials.members)

end Join
end ClusterAgent
