import ClusterAgent.Cli.Options
import ClusterAgent.Client.Call
import ClusterAgent.Client.Install
namespace ClusterAgent
namespace Agent

open Disk

/-! ## Why a command failed -/

inductive CommandError
  | tokenTooShort
  | token (cause : TokenError)
  | noHostname (cause : Option IoError)
  | request (cause : Client.Failure)
  | install (cause : Install.Error)
  deriving DecidableEq, Repr

def CommandError.report : CommandError → Report
  | .tokenTooShort => ⟨s!"token must be at least {Tokens.length} characters", []⟩
  | .token cause => cause.report
  | .noHostname (some cause) => ⟨"read system hostname; pass --hostname", [cause.message]⟩
  | .noHostname none => ⟨"system hostname is empty; pass --hostname", []⟩
  | .request cause => cause.report
  | .install cause => cause.report

/-! ## Letting a node in -/

/-- The address that peers call: the address to which the agent is bound, unless that stands
for all addresses of the machine. -/
def advertised (bind : SocketAddress) : String :=
  if bind.address.isUnspecified then s!"<this-node-ip>:{bind.port}" else bind.toText

/-- What the person at the new node is told. -/
def invitation (bind : SocketAddress) (token : String) : String :=
  "From the node you wish to join to this cluster, run:\n" ++
    s!"clusterd join {advertised bind} --token {token}\n"

/-- A token that was given must have as many octets as one that is made has characters. -/
def acceptGiven (token : Option String) (fresh : String) : Except CommandError String :=
  match token with
  | none => .ok fresh
  | some token => if token.utf8ByteSize < Tokens.length then .error .tokenTooShort else .ok token

/-- Issues a cluster token for `lifetime` seconds from `now` on, and tells how to use it. -/
def addNode (bind : SocketAddress) (token : Option String) (fresh : String) (lifetime : Nat)
    (now : Int) : Step CommandError String := do
  let token ← ExceptT.mk (pure (acceptGiven token fresh))
  ExceptT.adapt CommandError.token (Tokens.issue .cluster token (some (now + lifetime)))
  return invitation bind token

/-! ## Joining a cluster -/

/-- A join as the person at the new node asks for it. -/
structure Joining where
  peer : String
  token : String
  worker : Bool
  protocol : Join.Protocol
  hostname : Option String
  deriving DecidableEq, Repr

/-- The name of the machine, as its system keeps it. -/
abbrev SystemHostname := Except IoError String

def hostname (joining : Joining) (system : SystemHostname) : Except CommandError String :=
  match joining.hostname, system with
  | some hostname, _ => .ok hostname
  | none, .error cause => .error (.noHostname (some cause))
  | none, .ok text =>
      let hostname := Text.trim text.toList
      if hostname.isEmpty then .error (.noHostname none) else .ok (String.ofList hostname)

/-- The oldest way to join hands over this node's callback token. -/
def ownCallback (joining : Joining) (fresh : String) : Step CommandError (Option String) :=
  match joining.protocol with
  | .legacy => some <$> ExceptT.adapt CommandError.token (Tokens.ownCallback fresh)
  | _ => pure none

def request (joining : Joining) (hostname : String) (port : Nat) (callback : Option String) :
    Join.Request where
  token := joining.token
  hostname := hostname
  port := port
  worker := joining.worker
  callbackToken := callback
  contacted := ""
  remote := ""

/-- What a join asks of the peer. -/
def prepareJoin (system : SystemHostname) (port : Nat) (joining : Joining) (fresh : String) :
    Step CommandError Client.Outgoing := do
  let hostname ← ExceptT.mk (pure (hostname joining system))
  let callback ← ownCallback joining fresh
  return Client.outgoing joining.peer joining.protocol (request joining hostname port callback)

/-- Installs what the peer hands over. -/
def finishJoin (joining : Joining) (sent : Client.Outgoing) (reply : Client.Reply) :
    Step CommandError String := do
  let bundle ← ExceptT.adapt CommandError.request
    (ExceptT.mk (pure (reply.bundle joining.peer sent)))
  ExceptT.adapt CommandError.install
    (Install.install joining.protocol joining.peer joining.token joining.worker bundle)
  let role := if joining.worker then "worker" else "control plane member"
  return s!"Joined {joining.peer} as {role}\n"

/-- Asks a peer to be let in and installs what it hands over. -/
def joinCluster (transport : Client.Transport) (system : SystemHostname) (port : Nat)
    (joining : Joining) (fresh : String) : Step CommandError String := do
  let sent ← prepareJoin system port joining fresh
  finishJoin joining sent (transport sent)

/-- How a command ends for the person who gave it: its exit code, what it prints and what it
says of its failure. -/
structure Ending where
  exit : Nat
  output : Option String
  complaint : Option String
  deriving DecidableEq, Repr

def Ending.of : Except CommandError String → Ending
  | .ok output => ⟨0, some output, none⟩
  | .error error => ⟨1, none, some s!"Error: {error.report.paragraphs}\n"⟩

/-- A command line that is not understood. -/
def Ending.misuse : Ending := ⟨2, none, none⟩

/-! ## Surroundings from settings -/

/-- A host that is written as an address leads to it. Other names are looked up by the
system. -/
def resolveWith (system : String → Option (List IpAddress)) (host : String) :
    Option (List IpAddress) :=
  match IpAddress.ofText? host with
  | some address => some [address]
  | none => system host

/-- The surroundings that settings choose. -/
def surroundings (config : Cli.Config) (interfaces : Interfaces)
    (system : String → Option (List IpAddress)) (programs : Programs.Table)
    (token : Nat → String) : Surroundings where
  interfaces := interfaces
  resolve := resolveWith system
  restart := config.supervisor.restart programs
  apply := config.cluster.apply programs
  listNodes := config.cluster.listNodes programs
  token := token
  storageService := config.storageService
  pollInterval := config.pollInterval
  waitTimeout := config.waitTimeout

end Agent
end ClusterAgent
