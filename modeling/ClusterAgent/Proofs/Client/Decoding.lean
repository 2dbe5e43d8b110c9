import ClusterAgent.Client.Bundle
import ClusterAgent.Join.Response
import ClusterAgent.Proofs.Json.Rendering
namespace ClusterAgent

open Json

namespace Bundle

/-! ## Responses as they are read -/

/-- What a joining node reads in a response. -/
def ofResponse (response : Join.Response) : Bundle :=
  let bundle : Bundle :=
    { authority := response.authority
      callbackToken := response.callbackToken
      apiPort := response.apiPort
      authorizationMode := response.authorizationMode
      kubeletFlags := response.kubeletFlags
      hostnameOverride := response.hostnameOverride
      voters := none
      serviceAccountKey := none
      adminToken := none
      authorityKey := none
      clusterCertificate := none
      clusterKey := none
      etcdServers := none
      controlPlaneNodes := [] }
  match response.credentials with
  | .member credentials =>
      { bundle with
        voters := credentials.voters
        serviceAccountKey := credentials.serviceAccountKey
        adminToken := credentials.adminToken
        authorityKey := credentials.authorityKey
        clusterCertificate := credentials.clusterCertificate
        clusterKey := credentials.clusterKey
        etcdServers := credentials.etcdServers }
  | .worker nodes => { bundle with controlPlaneNodes := nodes }

section Shared

variable (response : Join.Response)

@[simp] theorem authority_ofResponse : (ofResponse response).authority = response.authority := by
  rw [ofResponse]
  cases response.credentials <;> rfl

@[simp] theorem callbackToken_ofResponse :
    (ofResponse response).callbackToken = response.callbackToken := by
  rw [ofResponse]
  cases response.credentials <;> rfl

@[simp] theorem kubeletFlags_ofResponse :
    (ofResponse response).kubeletFlags = response.kubeletFlags := by
  rw [ofResponse]
  cases response.credentials <;> rfl

@[simp] theorem hostnameOverride_ofResponse :
    (ofResponse response).hostnameOverride = response.hostnameOverride := by
  rw [ofResponse]
  cases response.credentials <;> rfl

end Shared

theorem decodeTexts_texts (items : List String) :
    (Json.texts items).reading.decodeTexts = .ok items := by
  have each : ∀ items : List String,
      (itemReadings (items.map .text)).mapM Reading.decodeText = .ok items := by
    intro items
    induction items with
    | nil => rfl
    | cons item items inductionHypothesis =>
        rw [List.map_cons, itemReadings, List.mapM_cons, inductionHypothesis]
        rfl
  exact each items

theorem fits_texts (items : List String) : (Json.texts items).fits = true := by
  rw [Json.texts, fits]
  induction items with
  | nil => rfl
  | cons item items inductionHypothesis =>
      rw [List.map_cons, itemsFit, inductionHypothesis]
      rfl

/-- A member of an object together with the value that is found in it. -/
structure Written where
  name : String
  value : Json
  found : FieldValue

namespace Written

def text (name value : String) : Written :=
  ⟨name, .text value, .text value⟩

def optionalText (name : String) (value : Option String) : Written :=
  ⟨name, .optional (value.map .text), (value.map .text).getD .absent⟩

def texts (name : String) (items : List String) : Written :=
  ⟨name, .texts items, .texts items⟩

def optionalTexts (name : String) (items : Option (List String)) : Written :=
  ⟨name, .optional (items.map .texts), (items.map .texts).getD .absent⟩

/-- The member is a field of the shape, and its value is read as one of the field's kind. -/
def Fits (shape : Shape) (item : Written) : Prop :=
  ∃ kind required, shape.field? item.name = some ⟨item.name, kind, required⟩ ∧
    item.value.reading.decodeField kind = .ok item.found

end Written

theorem decodeField_optionalTexts (items : Option (List String)) :
    (Json.optional (items.map .texts)).reading.decodeField .optionalTexts =
      .ok ((items.map .texts).getD .absent) := by
  cases items with
  | none => rfl
  | some items =>
      change (Json.texts items).reading.decodeTexts.map FieldValue.texts = _
      rw [decodeTexts_texts]
      rfl

theorem decodeMembers_written {shape : Shape} {written : List Written} {found : Fields}
    (each : ∀ item ∈ written, item.Fits shape) (distinct : (written.map Written.name).Nodup)
    (fresh : ∀ item ∈ written, found.lookup item.name = none) :
    shape.decodeMembers found
        (memberReadings (written.map fun item => (item.name, item.value))) =
      .ok (found ++ written.map fun item => (item.name, item.found)) := by
  induction written generalizing found with
  | nil => simp [memberReadings, Shape.decodeMembers]
  | cons item written inductionHypothesis =>
      obtain ⟨kind, required, known, read⟩ := each item (by simp)
      have absent := fresh item (by simp)
      rw [List.map_cons, List.nodup_cons] at distinct
      have freshLater : ∀ other ∈ written,
          (found ++ [(item.name, item.found)]).lookup other.name = none := by
        intro other member
        have different : other.name ≠ item.name := fun same =>
          distinct.1 (List.mem_map.mpr ⟨other, member, same⟩)
        have notSame : (other.name == item.name) = false := by simpa using different
        rw [List.lookup_append, fresh other (by simp [member]), List.lookup_cons, notSame]
        rfl
      have later := inductionHypothesis (fun other member => each other (by simp [member]))
        distinct.2 freshLater
      simp only [List.map_cons, memberReadings, Shape.decodeMembers, known, absent, read]
      simpa using later

/-- What was written member by member is read as the record with what is found in each. -/
theorem decodeReading_written {shape : Shape} {written : List Written}
    (each : ∀ item ∈ written, item.Fits shape) (distinct : (written.map Written.name).Nodup)
    (required : shape.requireFields (written.map fun item => (item.name, item.found)) =
      .ok (written.map fun item => (item.name, item.found))) :
    shape.decodeReading (Json.object (written.map fun item => (item.name, item.value))).reading =
      .ok (written.map fun item => (item.name, item.found)) := by
  have members := decodeMembers_written each distinct
    (fun _ _ => rfl : ∀ item ∈ written, ([] : Fields).lookup item.name = none)
  rw [List.nil_append] at members
  rw [reading, Shape.decodeReading, members]
  exact required

/-! ## Members of a response -/

def commonMembers (response : Join.Response) : List Written :=
  [.text "ca" response.authority, .text "callback_token" response.callbackToken,
    .text "apiport" response.apiPort, .text "api_authz_mode" response.authorizationMode,
    .text "kubelet_args" response.kubeletFlags,
    .optionalText "hostname_override" response.hostnameOverride]

def credentialMembers : Join.Credentials → List Written
  | .worker nodes => [.texts "control_plane_nodes" nodes]
  | .member credentials =>
      [.optionalTexts "voters" credentials.voters,
        .text "service_account_key" credentials.serviceAccountKey,
        .text "admin_token" credentials.adminToken, .text "ca_key" credentials.authorityKey,
        .text "cluster_cert" credentials.clusterCertificate,
        .text "cluster_key" credentials.clusterKey] ++
      (credentials.etcdServers.map (.text "etcd_servers")).toList

def written (response : Join.Response) : List Written :=
  commonMembers response ++ credentialMembers response.credentials

theorem toJson_eq_written (response : Join.Response) :
    response.toJson = .object ((written response).map fun item => (item.name, item.value)) := by
  obtain ⟨_, _, _, _, _, _, credentials⟩ := response
  cases credentials with
  | worker nodes => rfl
  | member credentials =>
      obtain ⟨_, _, _, _, _, _, servers⟩ := credentials
      cases servers <;> rfl

theorem ofFields_written (response : Join.Response) :
    ofFields ((written response).map fun item => (item.name, item.found)) =
      ofResponse response := by
  obtain ⟨_, _, _, _, _, override, credentials⟩ := response
  cases credentials with
  | worker nodes => cases override <;> rfl
  | member credentials =>
      obtain ⟨voters, _, _, _, _, _, servers⟩ := credentials
      cases override <;> cases voters <;> cases servers <;> rfl

theorem distinct_written (response : Join.Response) :
    ((written response).map Written.name).Nodup := by
  have commonNames : (commonMembers response).map Written.name =
      ["ca", "callback_token", "apiport", "api_authz_mode", "kubelet_args",
        "hostname_override"] := rfl
  rw [written, List.map_append, commonNames]
  cases response.credentials with
  | worker nodes =>
      have names : (credentialMembers (.worker nodes)).map Written.name =
          ["control_plane_nodes"] := rfl
      rw [names]
      decide
  | member credentials =>
      have names : (credentialMembers (.member credentials)).map Written.name =
          ["voters", "service_account_key", "admin_token", "ca_key", "cluster_cert",
            "cluster_key"] ++ if credentials.etcdServers.isSome then ["etcd_servers"] else [] := by
        obtain ⟨_, _, _, _, _, _, servers⟩ := credentials
        cases servers <;> rfl
      rw [names]
      cases credentials.etcdServers.isSome <;> decide

theorem fits_written (response : Join.Response) :
    ∀ item ∈ written response, item.Fits shape := by
  have optional (value : Option String) :
      (Json.optional (value.map .text)).reading.decodeField .optionalText =
        .ok ((value.map .text).getD .absent) := by
    cases value <;> rfl
  have common : ∀ item ∈ commonMembers response, item.Fits shape := by
    simp only [commonMembers, List.forall_mem_cons]
    exact ⟨⟨_, _, rfl, rfl⟩, ⟨_, _, rfl, rfl⟩, ⟨_, _, rfl, rfl⟩, ⟨_, _, rfl, rfl⟩,
      ⟨_, _, rfl, rfl⟩, ⟨_, _, rfl, optional _⟩, by simp⟩
  have own : ∀ item ∈ credentialMembers response.credentials, item.Fits shape := by
    cases response.credentials with
    | worker nodes =>
        simp only [credentialMembers, List.forall_mem_cons]
        refine ⟨⟨.texts, false, rfl, ?_⟩, by simp⟩
        rw [Reading.decodeField, Written.texts, decodeTexts_texts]
        rfl
    | member credentials =>
        simp only [credentialMembers, List.cons_append, List.nil_append, List.forall_mem_cons]
        refine ⟨⟨_, _, rfl, decodeField_optionalTexts _⟩, ⟨_, _, rfl, rfl⟩, ⟨_, _, rfl, rfl⟩,
          ⟨_, _, rfl, rfl⟩, ⟨_, _, rfl, rfl⟩, ⟨_, _, rfl, rfl⟩, ?_⟩
        intro item member
        cases servers : credentials.etcdServers with
        | none => simp [servers] at member
        | some servers =>
            simp only [servers, Option.map_some, Option.toList_some, List.mem_singleton] at member
            subst member
            exact ⟨_, _, rfl, rfl⟩
  intro item member
  rcases List.mem_append.mp member with member | member
  · exact common item member
  · exact own item member

theorem fits_response (response : Join.Response) : response.toJson.fits = true := by
  obtain ⟨_, _, _, _, _, override, credentials⟩ := response
  cases credentials with
  | worker nodes =>
      cases override <;>
        simp [Join.Response.toJson, Join.Credentials.members, fits, membersFit, fits_texts,
          Json.optional]
  | member credentials =>
      obtain ⟨voters, _, _, _, _, _, servers⟩ := credentials
      cases override <;> cases voters <;> cases servers <;>
        simp [Join.Response.toJson, Join.Credentials.members, Join.MemberCredentials.members,
          fits, membersFit, fits_texts, Json.optional]

theorem requireFields_written (response : Join.Response) :
    shape.requireFields ((written response).map fun item => (item.name, item.found)) =
      .ok ((written response).map fun item => (item.name, item.found)) := by
  rw [written]
  rfl

/-- A joining node reads in a response what the answering node has put into it. -/
theorem decode_response (response : Join.Response) :
    decode response.toJson.render = .ok (ofResponse response) := by
  have found : shape.decodeReading response.toJson.reading =
      .ok ((written response).map fun item => (item.name, item.found)) := by
    rw [toJson_eq_written]
    exact decodeReading_written (fits_written response) (distinct_written response)
      (requireFields_written response)
  rw [decode, Shape.decode, read_render (fits_response response)]
  dsimp only
  rw [found]
  exact congrArg Except.ok (ofFields_written response)

end Bundle
end ClusterAgent
