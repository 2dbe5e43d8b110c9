import ClusterAgent.Files.Step
import ClusterAgent.Node.Layout
import ClusterAgent.Text.Blank
import ClusterAgent.Text.Lines
import ClusterAgent.Text.Number
namespace ClusterAgent

/-! ## Token errors -/

/-- Why a token was not handled. -/
inductive TokenError
  | io (path : String) (cause : IoError)
  | invalid (reason : String)
  deriving DecidableEq, Repr

def TokenError.message : TokenError → String
  | .io path cause => s!"token file {path}: {cause.message}"
  | .invalid reason => s!"invalid token: {reason}"

def TokenError.cause? : TokenError → Option String
  | .io _ cause => some cause.message
  | .invalid _ => none

def TokenError.report (error : TokenError) : Report :=
  ⟨error.message, error.cause?.toList⟩

namespace Tokens

/-! ## Entries -/

/-- The lists of single-use tokens. -/
inductive Kind
  | cluster
  | certificateRequest
  deriving DecidableEq, Repr

def Kind.name : Kind → String
  | .cluster => "cluster"
  | .certificateRequest => "certificate-request"

def Kind.place : Kind → Place
  | .cluster => Layout.clusterTokens
  | .certificateRequest => Layout.certificateRequestTokens

/-- A token, with the text of the time at which it expires if it does. -/
structure Entry where
  token : List Char
  expiry : Option (List Char)
  deriving DecidableEq, Repr

/-- The entry on a line; the expiry follows the first bar. -/
def Entry.ofLine (line : List Char) : Entry :=
  let line := Text.trim line
  match Text.splitOnce '|' line with
  | some (token, expiry) => ⟨token, some expiry⟩
  | none => ⟨line, none⟩

/-- Whether the entry holds at a time in seconds. An expiry that is no number has passed. -/
def Entry.isValidAt (now : Int) (entry : Entry) : Bool :=
  match entry.expiry with
  | none => true
  | some text =>
      match Text.readInt64 (Text.trim text) with
      | .ok expiry => now < expiry
      | .error _ => false

def Entry.toLine (entry : Entry) : List Char :=
  match entry.expiry with
  | none => entry.token
  | some expiry => entry.token ++ '|' :: expiry

/-- Whether a line holds a valid entry of `token`. -/
def accepts (token : List Char) (now : Int) (line : List Char) : Bool :=
  let entry := Entry.ofLine line
  entry.token == token && entry.isValidAt now

/-- The lines without the first that holds a valid entry of `token`, if there is one. -/
def spend (token : List Char) (now : Int) : List (List Char) → Option (List (List Char))
  | [] => none
  | line :: rest =>
      if accepts token now line then some rest
      else (spend token now rest).map (line :: ·)

/-- Whether a token can stand on a line of its own. -/
def checkToken (token : String) : Except TokenError Unit :=
  if token.isEmpty then .error (.invalid "token is empty")
  else if token.toList.any fun character => character == '|' || Text.isBlank character then
    .error (.invalid "token must not contain '|' or whitespace")
  else .ok ()

/-! ## Token files -/

open Disk

/-- Every operation on token files first takes the lock file. -/
def takeLock : Step TokenError Unit := do
  let disk ← get
  ExceptT.adapt (TokenError.io (disk.shown Layout.tokensLock)) do
    makeDirectories [] Layout.tokensLock.parent
    openFile Layout.tokensLock.names

/-- The lines of a token file, if there is such a file. -/
def readLines (place : Place) : Step TokenError (Option (List (List Char))) := do
  let disk ← get
  let text ← ExceptT.adapt (TokenError.io (disk.shown place)) (readOptional place)
  return text.map fun text => Text.lines text.toList

/-- Replaces a token file. -/
def write (place : Place) (text : List Char) : Step TokenError Unit := do
  let disk ← get
  ExceptT.adapt (TokenError.io (disk.shown place)) do
    writeAtomic place (String.ofList text).toUTF8
    makePrivate place.names

/-- Spends the first valid entry of `token`; whether there was one. -/
def consume (kind : Kind) (token : String) (now : Int) : Step TokenError Bool := do
  if token.isEmpty then return false
  takeLock
  match ← readLines kind.place with
  | none => return false
  | some lines =>
      match spend token.toList now lines with
      | none => return false
      | some kept =>
          write kind.place (Text.unlines kept)
          return true

/-- Adds an entry of `token` that expires at a time in seconds, if one is given. -/
def issue (kind : Kind) (token : String) (expiry : Option Int) : Step TokenError Unit := do
  ExceptT.mk (pure (checkToken token))
  takeLock
  let lines ← readLines kind.place
  let entry : Entry := ⟨token.toList, expiry.map fun time => (toString time).toList⟩
  write kind.place (Text.unlines (lines.getD [] ++ [entry.toLine]))

/-- The parts of a worker that ask for certificates. -/
def workerRoles : List String := ["kubelet", "proxy"]

/-- The token with which one part of a worker asks for its certificate. -/
def workerToken (base role : String) : String :=
  s!"{base}-{role}"

/-- Issues a certificate request token for every part of a worker. -/
def issueForWorker (base : String) : Step TokenError (List String) :=
  workerRoles.mapM fun role => do
    issue .certificateRequest (workerToken base role) none
    return workerToken base role

/-! ## Callback tokens -/

/-- The lines without those of `peer`, and a last line with its new token. -/
def replaceCallback (peer token : List Char) (lines : List (List Char)) : List (List Char) :=
  lines.filter (fun line => (Text.words line).head? != some peer) ++ [peer ++ ' ' :: token]

/-- The token on a line if the line is that of `peer`. -/
def callbackOn (peer line : List Char) : Option (List Char) :=
  match Text.words line with
  | first :: token :: _ => if first = peer then some token else none
  | _ => none

/-- Remembers the token with which this node calls `peer`. -/
def storeCallback (peer token : String) : Step TokenError Unit := do
  ExceptT.mk (pure (checkToken token))
  if peer.isEmpty || peer.toList.any Text.isBlank then
    throw (.invalid "peer must be a host:port")
  takeLock
  let lines ← readLines Layout.callbackTokens
  write Layout.callbackTokens
    (Text.unlines (replaceCallback peer.toList token.toList (lines.getD [])))

/-- The token with which this node calls `peer`. -/
def callbackFor (peer : String) : Step TokenError (Option String) := do
  takeLock
  let lines ← readLines Layout.callbackTokens
  return ((lines.getD []).findSome? (callbackOn peer.toList)).map String.ofList

/-- The token with which peers call this node; the first time it is `fresh`. -/
def ownCallback (fresh : String) : Step TokenError String := do
  takeLock
  let disk ← get
  let text ← ExceptT.adapt (TokenError.io (disk.shown Layout.callbackToken))
    (readOptional Layout.callbackToken)
  let existing := Text.trim (text.getD "").toList
  if existing ≠ [] then return String.ofList existing
  write Layout.callbackToken fresh.toList
  return fresh

/-! ## Generated tokens -/

/-- The number of characters of a generated token. -/
def length : Nat := 32

def alphabet : List Char :=
  "ABCDEFGHIJKLMNOPQRSTUVWXYZabcdefghijklmnopqrstuvwxyz0123456789".toList

/-- A token from random octets. The highest octets, which would favour some characters, are
passed over. -/
def ofRandom (octets : List UInt8) : String :=
  String.ofList ((octets.filterMap fun octet =>
    if octet < 248 then alphabet[octet.toNat % 62]? else none).take length)

end Tokens
end ClusterAgent
