import ClusterAgent.Proofs.Client.Decoding
import Mathlib.Logic.Function.Basic
namespace ClusterAgent
namespace Bundle

open Json

/-! ## The two shapes of a response -/

/-- The names of the members that a response has for its credentials. -/
def credentialNames : Join.Credentials → List String
  | .worker _ => ["control_plane_nodes"]
  | .member credentials =>
      ["voters", "service_account_key", "admin_token", "ca_key", "cluster_cert", "cluster_key"] ++
        if credentials.etcdServers.isSome then ["etcd_servers"] else []

theorem map_fst_memberReadings (members : List (String × Json)) :
    (memberReadings members).map Prod.fst = members.map fun member => some member.1 := by
  induction members with
  | nil => rfl
  | cons member members inductionHypothesis =>
      rw [memberReadings, List.map_cons, inductionHypothesis]
      rfl

theorem names_members (credentials : Join.Credentials) :
    (credentials.members.map Prod.fst) = credentialNames credentials := by
  cases credentials with
  | worker nodes => rfl
  | member credentials =>
      obtain ⟨_, _, _, _, _, _, servers⟩ := credentials
      cases servers <;> rfl

theorem read_response (response : Join.Response) :
    ∃ members, read response.toJson.render = (.object members, true) ∧
      members.map Prod.fst = (["ca", "callback_token", "apiport", "api_authz_mode", "kubelet_args",
        "hostname_override"] ++ credentialNames response.credentials).map some := by
  refine ⟨_, read_render (fits_response response), ?_⟩
  rw [map_fst_memberReadings, ← names_members]
  simp

/-- What a worker or a member finds for its credentials. -/
def Holds (bundle : Bundle) : Join.Credentials → Prop
  | .worker nodes =>
      bundle.controlPlaneNodes = nodes ∧ bundle.voters = none ∧ bundle.serviceAccountKey = none ∧
        bundle.adminToken = none ∧ bundle.authorityKey = none ∧ bundle.clusterCertificate = none ∧
          bundle.clusterKey = none ∧ bundle.etcdServers = none
  | .member credentials =>
      bundle.voters = credentials.voters ∧
        bundle.serviceAccountKey = some credentials.serviceAccountKey ∧
          bundle.adminToken = some credentials.adminToken ∧
            bundle.authorityKey = some credentials.authorityKey ∧
              bundle.clusterCertificate = some credentials.clusterCertificate ∧
                bundle.clusterKey = some credentials.clusterKey ∧
                  bundle.etcdServers = credentials.etcdServers ∧ bundle.controlPlaneNodes = []

theorem holds_ofResponse (response : Join.Response) :
    (ofResponse response).Holds response.credentials := by
  rw [ofResponse]
  cases response.credentials with
  | worker nodes => exact ⟨rfl, rfl, rfl, rfl, rfl, rfl, rfl, rfl⟩
  | member credentials => exact ⟨rfl, rfl, rfl, rfl, rfl, rfl, rfl, rfl⟩

/-- The response that a bundle comes from. Only a member is given a key, so the key tells the two
shapes apart. -/
def response (bundle : Bundle) : Join.Response where
  authority := bundle.authority
  callbackToken := bundle.callbackToken
  apiPort := bundle.apiPort
  authorizationMode := bundle.authorizationMode
  kubeletFlags := bundle.kubeletFlags
  hostnameOverride := bundle.hostnameOverride
  credentials :=
    match bundle.serviceAccountKey with
    | none => .worker bundle.controlPlaneNodes
    | some key => .member
        { voters := bundle.voters
          serviceAccountKey := key
          adminToken := bundle.adminToken.getD ""
          authorityKey := bundle.authorityKey.getD ""
          clusterCertificate := bundle.clusterCertificate.getD ""
          clusterKey := bundle.clusterKey.getD ""
          etcdServers := bundle.etcdServers }

theorem response_ofResponse : Function.LeftInverse response ofResponse := by
  intro response
  obtain ⟨_, _, _, _, _, _, credentials⟩ := response
  cases credentials with
  | worker nodes => rfl
  | member credentials => rfl

/-- A response has one of two shapes, and a joining node reads everything in it. -/
theorem response_read_back (response : Join.Response) :
    (∃ members, read response.toJson.render = (.object members, true) ∧
      members.map Prod.fst = (["ca", "callback_token", "apiport", "api_authz_mode", "kubelet_args",
        "hostname_override"] ++ credentialNames response.credentials).map some) ∧
      (∃ bundle, decode response.toJson.render = .ok bundle ∧
        (bundle.authority = response.authority ∧ bundle.callbackToken = response.callbackToken ∧
          bundle.apiPort = response.apiPort ∧
            bundle.authorizationMode = response.authorizationMode ∧
              bundle.kubeletFlags = response.kubeletFlags ∧
                bundle.hostnameOverride = response.hostnameOverride) ∧
          bundle.Holds response.credentials) ∧
        ∀ other : Join.Response, decode other.toJson.render = decode response.toJson.render →
          other = response := by
  refine ⟨read_response response, ⟨_, decode_response response, ?_, holds_ofResponse response⟩, ?_⟩
  · rw [ofResponse]
    cases response.credentials with
    | worker nodes => exact ⟨rfl, rfl, rfl, rfl, rfl, rfl⟩
    | member credentials => exact ⟨rfl, rfl, rfl, rfl, rfl, rfl⟩
  · intro other same
    rw [decode_response, decode_response] at same
    exact response_ofResponse.injective (Except.ok.inj same)

end Bundle
end ClusterAgent
