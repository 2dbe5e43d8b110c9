import ClusterAgent.Files.Step
import ClusterAgent.Node.Layout
import ClusterAgent.Text.Blank
import ClusterAgent.Text.Lines
namespace ClusterAgent

/-! ## What a node keeps on disk -/

/-- The store that holds the cluster's state. -/
inductive Backend
  | replicatedStore
  | etcd
  deriving DecidableEq, Repr

def Backend.name : Backend → String
  | .replicatedStore => "dqlite"
  | .etcd => "etcd"

/-- A pair of a certificate and its key. -/
structure KeyPair where
  certificate : String
  key : String
  deriving DecidableEq, Repr

/-- Why a part of the state could not be read. -/
inductive StateError
  | file (cause : FileError)
  | noAdminToken (path : String)
  deriving DecidableEq, Repr

def StateError.report : StateError → Report
  | .file cause => cause.report
  | .noAdminToken path => ⟨s!"no admin token in {path}", []⟩

namespace NodeState

open Disk

/-- A marker file tells that the node runs the replicated store. -/
def backend (disk : Disk) : Backend :=
  if disk.holds Layout.replicatedStoreMarker then .replicatedStore else .etcd

def readKeyPair (certificate key : Place) : Step FileError KeyPair := do
  let certificate ← readWhole certificate
  let key ← readWhole key
  return ⟨certificate, key⟩

/-- The key pair with which members of the replicated store meet each other. -/
def storeKeyPair : Step FileError KeyPair :=
  readKeyPair Layout.storeCertificate Layout.storeKey

/-- The key pair with which members of an etcd cluster meet each other. -/
def serverKeyPair : Step FileError KeyPair :=
  readKeyPair Layout.serverCertificate Layout.serverKey

def markNoReissue : Step FileError Unit :=
  touch Layout.noReissueMarker

/-! ## The administrator's token -/

/-- The columns of a row. -/
def columns (row : List Char) : List (List Char) :=
  row.splitOn ','

def adminName : List Char := "admin".toList

/-- The token of a row whose second column is the administrator and whose first is not
blank. -/
def adminTokenOf (row : List Char) : Option (List Char) :=
  match columns row with
  | token :: user :: _ =>
      let token := Text.trim token
      if Text.trim user = adminName ∧ token ≠ [] then some token else none
  | _ => none

/-- Whether the second column of a row is the administrator. -/
def isAdminRow (row : List Char) : Bool :=
  match columns row with
  | _ :: user :: _ => Text.trim user == adminName
  | _ => false

/-- The row that names the administrator's token. -/
def adminRow (token : List Char) : List Char :=
  token ++ ",admin,admin,\"system:masters\"".toList

/-- The rows without those of the administrator, and a last row with the new token. -/
def replaceAdminRow (token : List Char) (rows : List (List Char)) : List (List Char) :=
  rows.filter (fun row => !isAdminRow row) ++ [adminRow token]

/-- The first token of the administrator. -/
def adminToken : Step StateError String := do
  let disk ← get
  let content ← ExceptT.adapt StateError.file (readWhole Layout.knownTokens)
  match (Text.lines content.toList).findSome? adminTokenOf with
  | some token => return String.ofList token
  | none => throw (.noAdminToken (disk.shown Layout.knownTokens))

/-- Makes `token` the administrator's only token. -/
def setAdminToken (token : String) : Step FileError Unit := do
  let disk ← get
  let content ← ExceptT.adapt (FileError.reading (disk.shown Layout.knownTokens))
    (readOptional Layout.knownTokens)
  let rows := Text.lines (content.getD "").toList
  writeSecret Layout.knownTokens
    (String.ofList (Text.unlines (replaceAdminRow token.toList rows))).toUTF8

end NodeState
end ClusterAgent
