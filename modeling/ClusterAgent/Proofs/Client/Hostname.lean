import ClusterAgent.Proofs.Client.Decoding
import ClusterAgent.Proofs.Client.Install
import ClusterAgent.Proofs.Join.Handout
import ClusterAgent.Proofs.Net.Ip.Characters
namespace ClusterAgent

open Disk Running Text

namespace Join

/-! ## The name that a join settles -/

section Naming

variable {surroundings : Surroundings} {patience : Patience} {protocol : Protocol}
  {request : Request} {server served : World} {response : Response}

theorem solid_toText (address : IpAddress) : Solid address.toText.toList := by
  intro character member
  rw [IpAddress.toText, String.toList_ofList] at member
  have host := IpAddress.isHostCharacter_of_mem_toChars address character member
  simp only [IpAddress.isHostCharacter, Bool.and_eq_true, Bool.not_eq_true'] at host
  exact host.1.1

/-- The name that a response gives to the joining node is an address. -/
theorem solid_hostnameOverride
    (ran : (join surroundings patience protocol request).run server = (.ok response, served)) :
    ∀ host, response.hostnameOverride = some host → Solid host.toList := by
  obtain ⟨_, _, granted⟩ := join_ok ran
  obtain ⟨remote, override, _, _, _, named, _, completed⟩ := grant_ok granted
  intro host given
  rw [(complete_ok completed).1] at given
  rcases hostnameOverride_ok named with ⟨_, _, none⟩ | ⟨_, address⟩
  · rw [none] at given
    cases given
  · rw [address] at given
    cases given
    exact solid_toText remote

/-- A server of an etcd cluster hands out the kubelet's flags as they stood before the join. -/
theorem kubeletFlags_of_server (notStore : protocol ≠ .replicatedStore)
    (ran : (join surroundings patience protocol request).run server = (.ok response, served)) :
    server.disk.textOf (Layout.flags "kubelet") = .ok response.kubeletFlags := by
  obtain ⟨spent, consumed, granted⟩ := join_ok ran
  obtain ⟨_, _, _, admittedAt, _, _, admission, completed⟩ := grant_ok granted
  obtain ⟨called, handed, _⟩ := complete_hands_over completed
  obtain ⟨_, owned⟩ := handed.callback
  have spending : ChangesOnly (Tokens.footprint .cluster) server.disk spent :=
    Tokens.consume_within.reaches consumed
  have admitting := (admitBy_etcd notStore admission).2
  have owning := (Tokens.ownCallback_within _).reaches owned
  calc
    server.disk.textOf (Layout.flags "kubelet")
      = spent.textOf (Layout.flags "kubelet") := (spending.textOf (by decide)).symm
    _ = admittedAt.disk.textOf (Layout.flags "kubelet") := (admitting.textOf (by decide)).symm
    _ = called.disk.textOf (Layout.flags "kubelet") := (owning.textOf (by decide)).symm
    _ = .ok response.kubeletFlags := handed.flags

end Naming

end Join

namespace Install

/-! ## The name of an installed node -/

/-- The name under which the flags of a node make it run; nothing when they give none. -/
def nodeName (disk : Disk) : String :=
  Flags.lookup "kubelet" "--hostname-override" disk

def nameIn (flags : String) : String :=
  String.ofList (Flags.value "--hostname-override".toList flags.toList)

/-- The name that a node takes from flags, which it must be allowed to read. -/
def inheritedName (node : Disk) (flags : String) : String :=
  if (node.refuses .read (Layout.flags "kubelet").names).isNone then nameIn flags else ""

theorem isFlag_hostnameOverride : Flags.IsFlag "--hostname-override".toList where
  nonempty := by decide
  solid := by decide
  noSign := by decide

section Naming

variable {surroundings : Surroundings} {patience : Join.Patience} {api protocol : Join.Protocol}
  {request : Join.Request} {server served : World} {response : Join.Response} {bundle : Bundle}
  {peer token : String} {worker : Bool} {node after : Disk}

theorem nameIn_kubeletText
    (solid : ∀ host, bundle.hostnameOverride = some host → Solid host.toList) :
    nameIn (kubeletText bundle) = bundle.hostnameOverride.getD (nameIn bundle.kubeletFlags) := by
  rcases given : bundle.hostnameOverride with _ | host
  · simp only [kubeletText, given, Option.getD_none]
  · simp only [kubeletText, given, Option.getD_some]
    calc
      nameIn (String.ofList _) = String.ofList (Flags.value "--hostname-override".toList _) :=
        congrArg (fun text => String.ofList (Flags.value _ text)) String.toList_ofList
      _ = String.ofList host.toList := congrArg String.ofList
        (Flags.value_set isFlag_hostnameOverride (solid host given) bundle.kubeletFlags.toList)
      _ = host := String.ofList_toList

/-- Neither the tokens of a worker nor the keys of a member stand where the node's flags do. -/
theorem install_handed
    (installed : (install protocol peer token worker bundle).run node = (.ok (), after)) :
    Handed bundle after ∧ after.refuses = node.refuses := by
  obtain ⟨_, middle, shared, rest⟩ := bind_ok installed
  have handed := (common_ok shared).1
  have sharing := (common_within peer bundle).reaches shared
  split at rest
  · have working := secret_changes rest
    exact ⟨handed.of_changes working (by decide) (by decide),
      working.refuses.trans sharing.refuses⟩
  · have member := (controlPlane_within protocol peer bundle).reaches rest
    refine ⟨handed.of_changes member ?_ ?_, member.refuses.trans sharing.refuses⟩
    · cases protocol <;> decide
    · cases protocol <;> decide

theorem nodeName_of_handed (handed : Handed bundle after) :
    nodeName after = inheritedName after (kubeletText bundle) := by
  rw [inheritedName]
  rcases allowed : after.refuses .read (Layout.flags "kubelet").names with _ | reason
  · exact Flags.lookup_of_textOf (handed.flags.textOf rfl (by decide) allowed) _
  · simp [nodeName, Flags.lookup, run_readText, textOf, contentOf, allowed]

/-- The override of a name changes the flags, which must be read for that. -/
theorem readable_of_named {host : String} (named : bundle.hostnameOverride = some host)
    (installed : (install protocol peer token worker bundle).run node = (.ok (), after)) :
    node.refuses .read (Layout.flags "kubelet").names = none := by
  obtain ⟨_, _, shared, _⟩ := bind_ok installed
  rw [common_eq] at shared
  obtain ⟨_, _, ranHandOver, _⟩ := bind_ok shared
  obtain ⟨_, handing, _, _, naming⟩ := handOver_parts ranHandOver
  rw [nameNode, named] at naming
  rw [← handing.refuses]
  exact (Flags.update_ok rfl (adapt_ok naming)).1

/-- A node that joined runs under the name that the join settled if it settled one. Otherwise it
runs under the name that the answering node itself has in its flags, so that it runs under its
hostname only if there is none. -/
theorem installed_name
    (joined : (Join.join surroundings patience api request).run server = (.ok response, served))
    (decoded : Bundle.decode response.toJson.render = .ok bundle)
    (installed : (install protocol peer token worker bundle).run node = (.ok (), after)) :
    nodeName after =
        response.hostnameOverride.getD (inheritedName node response.kubeletFlags) ∧
      (nodeName after = response.hostnameOverride.getD "" ↔
        response.hostnameOverride.isSome ∨ inheritedName node response.kubeletFlags = "") ∧
      (api ≠ .replicatedStore → nameIn response.kubeletFlags = nodeName server.disk) := by
  rw [Bundle.decode_response] at decoded
  cases decoded
  obtain ⟨handed, refuses⟩ := install_handed installed
  have solid : ∀ host, (Bundle.ofResponse response).hostnameOverride = some host →
      Solid host.toList := by
    rw [Bundle.hostnameOverride_ofResponse]
    exact Join.solid_hostnameOverride joined
  have runs : nodeName after =
      response.hostnameOverride.getD (inheritedName node response.kubeletFlags) := by
    rw [nodeName_of_handed handed, inheritedName, refuses, nameIn_kubeletText solid,
      Bundle.hostnameOverride_ofResponse, Bundle.kubeletFlags_ofResponse]
    rcases given : response.hostnameOverride with _ | host
    · rfl
    -- Flags that were changed had to be read before.
    · have named := (Bundle.hostnameOverride_ofResponse response).trans given
      rw [readable_of_named named installed]
      rfl
  refine ⟨runs, ?_, fun notStore => ?_⟩
  · rw [runs]
    rcases response.hostnameOverride with _ | host
    · simp
    · simp
  · exact (Flags.lookup_of_textOf (Join.kubeletFlags_of_server notStore joined) _).symm

end Naming

/-! ## A node that joins through one with a name of its own -/

def namedServer : World :=
  Join.etcdNode "--hostname-override=10.0.0.1\n" ""

/-- Every hostname leads to 10.0.0.2. -/
def resolving : Surroundings :=
  { Rehearsal.quiet with resolve := fun _ => (IpAddress.ofText? "10.0.0.2").map fun only => [only] }

def hostCalling : Join.Request :=
  { Join.memberCalling "10.0.0.1:25001" "10.0.0.2" with hostname := "node-2" }

def unnamedResponse : Join.Response :=
  Join.etcdResponse "--hostname-override=10.0.0.1\n" none none

theorem namedServer_admits :
    (Join.join resolving .endless .legacy hostCalling).run namedServer =
      (.ok unnamedResponse,
        ((Join.join resolving .endless .legacy hostCalling).run namedServer).2) :=
  run_of_toOption (by decide +kernel)

def misnamedInstalled : Disk :=
  ((install .legacy "10.0.0.1:25001" "abc" false (.ofResponse unnamedResponse)).run
    (Disk.empty "/data")).2

theorem unnamedResponse_installs :
    (install .legacy "10.0.0.1:25001" "abc" false (.ofResponse unnamedResponse)).run
      (Disk.empty "/data") = (.ok (), misnamedInstalled) :=
  run_of_toOption (by decide +kernel)

theorem namedServer_passes_its_name_on :
    nodeName misnamedInstalled = unnamedResponse.hostnameOverride.getD
        (inheritedName (Disk.empty "/data") unnamedResponse.kubeletFlags) ∧
      (nodeName misnamedInstalled = unnamedResponse.hostnameOverride.getD "" ↔
        unnamedResponse.hostnameOverride.isSome ∨
          inheritedName (Disk.empty "/data") unnamedResponse.kubeletFlags = "") ∧
      (Join.Protocol.legacy ≠ .replicatedStore →
        nameIn unnamedResponse.kubeletFlags = nodeName namedServer.disk) :=
  installed_name namedServer_admits (Bundle.decode_response unnamedResponse)
    unnamedResponse_installs

/-- A node may run under a name although the join settled none. -/
theorem installed_name_may_be_inherited :
    ∃ served after,
      (Join.join resolving .endless .legacy hostCalling).run namedServer =
          (.ok unnamedResponse, served) ∧
        unnamedResponse.hostnameOverride = none ∧
          Bundle.decode unnamedResponse.toJson.render = .ok (.ofResponse unnamedResponse) ∧
            (install .legacy "10.0.0.1:25001" "abc" false (.ofResponse unnamedResponse)).run
                (Disk.empty "/data") = (.ok (), after) ∧
              nodeName after = "10.0.0.1" :=
  ⟨_, misnamedInstalled, namedServer_admits, rfl, Bundle.decode_response unnamedResponse,
    unnamedResponse_installs, by decide +kernel⟩

end Install
end ClusterAgent
