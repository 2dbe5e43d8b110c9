import ClusterAgent.Json.Shape
import ClusterAgent.Json.Value
namespace ClusterAgent

/-! ## What a joined node receives -/

/-- The answer to a join, as a joining node reads it. -/
structure Bundle where
  authority : String
  callbackToken : String
  apiPort : String
  authorizationMode : String
  kubeletFlags : String
  hostnameOverride : Option String
  voters : Option (List String)
  serviceAccountKey : Option String
  adminToken : Option String
  authorityKey : Option String
  clusterCertificate : Option String
  clusterKey : Option String
  etcdServers : Option String
  controlPlaneNodes : List String
  deriving DecidableEq, Repr

namespace Bundle

def shape : Json.Shape where
  name := "JoinBundle"
  fields :=
    [⟨"ca", .text, true⟩, ⟨"callback_token", .text, true⟩, ⟨"apiport", .text, true⟩,
      ⟨"api_authz_mode", .text, false⟩, ⟨"kubelet_args", .text, false⟩,
      ⟨"hostname_override", .optionalText, false⟩, ⟨"voters", .optionalTexts, false⟩,
      ⟨"service_account_key", .optionalText, false⟩, ⟨"admin_token", .optionalText, false⟩,
      ⟨"ca_key", .optionalText, false⟩, ⟨"cluster_cert", .optionalText, false⟩,
      ⟨"cluster_key", .optionalText, false⟩, ⟨"etcd_servers", .optionalText, false⟩,
      ⟨"control_plane_nodes", .texts, false⟩]

def ofFields (fields : Json.Fields) : Bundle where
  authority := fields.text "ca"
  callbackToken := fields.text "callback_token"
  apiPort := fields.text "apiport"
  authorizationMode := fields.text "api_authz_mode"
  kubeletFlags := fields.text "kubelet_args"
  hostnameOverride := fields.optionalText "hostname_override"
  voters := fields.optionalTexts "voters"
  serviceAccountKey := fields.optionalText "service_account_key"
  adminToken := fields.optionalText "admin_token"
  authorityKey := fields.optionalText "ca_key"
  clusterCertificate := fields.optionalText "cluster_cert"
  clusterKey := fields.optionalText "cluster_key"
  etcdServers := fields.optionalText "etcd_servers"
  controlPlaneNodes := fields.texts "control_plane_nodes"

def decode (text : List Char) : Except Json.DecodeError Bundle :=
  (shape.decode text).map ofFields

/-- All fields of a bundle. -/
def toJson (bundle : Bundle) : Json :=
  let text := fun (value : Option String) => Json.optional (value.map .text)
  .object
    [("ca", .text bundle.authority), ("callback_token", .text bundle.callbackToken),
      ("apiport", .text bundle.apiPort), ("api_authz_mode", .text bundle.authorizationMode),
      ("kubelet_args", .text bundle.kubeletFlags),
      ("hostname_override", text bundle.hostnameOverride),
      ("voters", .optional (bundle.voters.map .texts)),
      ("service_account_key", text bundle.serviceAccountKey),
      ("admin_token", text bundle.adminToken), ("ca_key", text bundle.authorityKey),
      ("cluster_cert", text bundle.clusterCertificate),
      ("cluster_key", text bundle.clusterKey), ("etcd_servers", text bundle.etcdServers),
      ("control_plane_nodes", .texts bundle.controlPlaneNodes)]

end Bundle
end ClusterAgent
