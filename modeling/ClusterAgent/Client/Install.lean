import ClusterAgent.Client.Bundle
import ClusterAgent.Client.Peer
import ClusterAgent.Node.Flags
import ClusterAgent.Node.Tokens
namespace ClusterAgent
namespace Install

/-! ## Installing a bundle -/

open Disk

/-- Why a bundle was not installed. -/
inductive Error
  | file (cause : FileError)
  | kubeletFlags (cause : IoError)
  | callback (cause : TokenError)
  | incomplete (peer : String)
  deriving DecidableEq, Repr

def Error.report : Error → Report
  | .file cause => cause.report
  | .kubeletFlags cause => ⟨"write kubelet arguments", [cause.message]⟩
  | .callback cause => cause.report.within "store peer callback token"
  | .incomplete peer => ⟨s!"join response from {peer} lacks control plane credentials", []⟩

def secret (place : Place) (text : String) : Step Error Unit :=
  ExceptT.adapt Error.file (writeSecret place text.toUTF8)

def setFlag (service flag value : String) : Step Error Unit :=
  ExceptT.adapt Error.file (Flags.update service [(flag, value)] [])

/-- What every joined node installs. -/
def common (peer : String) (bundle : Bundle) : Step Error Unit := do
  let disk ← get
  ExceptT.adapt (fun cause => Error.file (.writing (disk.shown Layout.authorityCertificate) cause))
    (writeAtomic Layout.authorityCertificate bundle.authority.toUTF8)
  ExceptT.adapt Error.kubeletFlags
    (writeAtomic (Layout.flags "kubelet") bundle.kubeletFlags.toUTF8)
  match bundle.hostnameOverride with
  | some host => setFlag "kubelet" "--hostname-override" host
  | none => pure ()
  ExceptT.adapt Error.callback (Tokens.storeCallback (Peer.authority peer) bundle.callbackToken)

/-- The tokens with which a worker asks for its certificates, one on a line. -/
def workerTokens (token : String) : String :=
  String.join (Tokens.workerRoles.map fun role => Tokens.workerToken token role ++ "\n")

/-- Where members of the control plane keep the key pair of the cluster. -/
def keyPairPlaces : Join.Protocol → Place × Place
  | .replicatedStore => (Layout.storeCertificate, Layout.storeKey)
  | _ => (Layout.serverCertificate, Layout.serverKey)

/-- What makes the node run the store of the cluster. -/
def installStore (protocol : Join.Protocol) (bundle : Bundle) : Step Error Unit :=
  match protocol with
  | .replicatedStore => ExceptT.adapt Error.file (touch Layout.replicatedStoreMarker)
  | _ =>
      match bundle.etcdServers with
      | some servers => setFlag "kube-apiserver" "--etcd-servers" servers
      | none => pure ()

/-- What a member of the control plane installs besides. -/
def controlPlane (protocol : Join.Protocol) (peer : String) (bundle : Bundle) :
    Step Error Unit := do
  match bundle.authorityKey, bundle.serviceAccountKey, bundle.clusterCertificate,
      bundle.clusterKey with
  | some authorityKey, some serviceAccountKey, some certificate, some key =>
      secret Layout.authorityKey authorityKey
      secret Layout.serviceAccountKey serviceAccountKey
      let (certificatePlace, keyPlace) := keyPairPlaces protocol
      secret certificatePlace certificate
      secret keyPlace key
      match bundle.adminToken with
      | some token => ExceptT.adapt Error.file (NodeState.setAdminToken token)
      | none => pure ()
      installStore protocol bundle
  | _, _, _, _ => throw (.incomplete peer)

/-- Writes what a successful join handed over into the data directory. -/
def install (protocol : Join.Protocol) (peer token : String) (worker : Bool) (bundle : Bundle) :
    Step Error Unit := do
  common peer bundle
  if worker then secret Layout.workerTokens (workerTokens token)
  else controlPlane protocol peer bundle

end Install
end ClusterAgent
