import ClusterAgent.Agent.Commands
import ClusterAgent.Client.Target
import ClusterAgent.Http.Wire
import Std.Async.DNS
import Std.Async.Signal
import Std.Async.TCP
namespace ClusterAgent
namespace Main

open Std.Async

/-! ## The data directory -/

def pathIn (directory : String) (names : List String) : String :=
  "/".intercalate (directory :: names)

/-- Adds what is at or below a place to what is known of the data directory. What cannot be
read is refused later as well. -/
partial def loadBelow (directory : String) (disk : Disk) (names : List String) : IO Disk := do
  let path := pathIn directory names
  let found ← (IO.FS.realPath path).toBaseIO
  match found with
  | .error _ => return disk
  | .ok real =>
      if ← real.isDir then
        let mut disk := (List.range names.length).foldl
          (fun disk count => disk.put (names.take (count + 1)) .directory) disk
        for entry in ← real.readDir do
          disk ← loadBelow directory disk (names ++ [entry.fileName])
        return disk
      else
        match ← (IO.FS.readBinFile path).toBaseIO with
        | .ok content => return disk.put names (.file content false)
        | .error error =>
            let refuses := disk.refuses
            return { disk.put names (.file .empty false) with
              refuses := fun operation other =>
                if operation = .read ∧ other = names then some (toString error)
                else refuses operation other }

def load (directory : String) : IO Disk :=
  Layout.directories.foldlM (loadBelow directory) (Disk.empty directory)

/-- Replaces a file or makes a directory. -/
def storeEntry (directory : String) (names : List String) : Entry → IO Unit
  | .directory => IO.FS.createDirAll (pathIn directory names)
  | .file content isPrivate => do
      let path := pathIn directory names
      IO.FS.createDirAll (pathIn directory names.dropLast)
      IO.FS.writeBinFile (path ++ ".tmp") content
      IO.FS.rename (path ++ ".tmp") path
      if isPrivate then IO.setAccessRights path { user := { read := true, write := true } }

/-- Writes down what has changed, except files that others keep. -/
def store (directory : String) (others : List (List String)) (before after : Disk) : IO Unit := do
  for (names, entry) in after.entries do
    if !((before.entryAt? names).any entry.sameAs || others.contains names) then
      storeEntry directory names entry

/-- Keeps other processes from the token files meanwhile. -/
def holdingTokens {α : Type} (directory : String) (action : IO α) : IO α := do
  IO.FS.createDirAll (pathIn directory Layout.tokensLock.parent)
  IO.FS.withFile (pathIn directory Layout.tokensLock.names) .append fun handle => do
    handle.lock
    try action finally handle.unlock

/-! ## The machine -/

def clock : IO Nat :=
  return (← Std.Time.Timestamp.now).toMillisecondsSinceUnixEpoch.toInt.toNat

def drawToken : IO String :=
  return Tokens.ofRandom (← IO.getRandomBytes 128).toList

def addressOf (address : Std.Net.IPAddr) : Option IpAddress :=
  IpAddress.ofText? (toString address)

def interfaces : IO Interfaces := do
  match ← Std.Net.interfaceAddresses.toBaseIO with
  | .error _ => return none
  | .ok found =>
      return some (found.toList.filterMap fun item => do
        return Cidr.ofMask (← addressOf item.address) (← addressOf item.netMask))

/-- The addresses of a host. -/
def lookUp (host : String) : IO (Option (List IpAddress)) := do
  match ← (DNS.getAddrInfo host "").block.toBaseIO with
  | .error _ => return none
  | .ok found => return some (found.toList.filterMap addressOf)

def socketOf (address : IpAddress) (port : Nat) : Option Std.Net.SocketAddress :=
  match address with
  | .v4 _ => (Std.Net.IPv4Addr.ofString address.toText).map fun found => .v4 ⟨found, port.toUInt16⟩
  | .v6 _ => (Std.Net.IPv6Addr.ofString address.toText).map fun found => .v6 ⟨found, port.toUInt16⟩

/-- Receives a message, which the end of the connection may complete. -/
partial def receive {α : Type} (connection : TCP.Socket.Client)
    (read : Bool → List UInt8 → Http.Wire.Progress α) (octets : List UInt8) : IO (Option α) := do
  match read false octets with
  | .complete value => return some value
  | .malformed => return none
  | .incomplete =>
      match ← (connection.recv? 65536).block with
      | some more => receive connection read (octets ++ more.toList)
      | none =>
          match read true octets with
          | .complete value => return some value
          | _ => return none

/-! ## Asking a peer -/

/-- Sends a request to an address and receives the response. -/
def exchangeWith (socket : Std.Net.SocketAddress) (target : Target) (sent : Client.Outgoing) :
    IO Client.Reply := do
  let connection ← TCP.Socket.Client.mk
  (connection.connect socket).block
  let fields :=
    [("host", target.authority), ("content-type", "application/json"), ("accept", "*/*"),
      ("user-agent", sent.userAgent)]
  let message := Http.Wire.writeRequest "POST" target.path fields sent.body.toText.toUTF8
  (connection.send message).block
  match ← receive connection Http.Wire.readResponse [] with
  | some (status, body) => return .answered status body
  | none => throw (IO.userError "connection closed before message completed")

/-- Sends a request to the host behind its URL. -/
def exchange (sent : Client.Outgoing) : IO Client.Reply := do
  let some target := Target.ofUrl? sent.url | throw (IO.userError "not a usable URL")
  let addresses ←
    match IpAddress.ofText? target.host with
    | some address => pure [address]
    | none => (·.getD []) <$> lookUp target.host
  match addresses.findSome? fun address => socketOf address target.port with
  | some socket => exchangeWith socket target sent
  | none => throw (IO.userError "the host has no address")

/-- Fails when the clock shows `time`, unless nobody waits for that any more. -/
partial def failAt {α : Type} (time : Nat) : IO α := do
  if (← IO.checkCanceled) || time ≤ (← clock) then throw (IO.userError "operation timed out")
  IO.sleep 20
  failAt time

/-- Sends a request and waits for its response as long as the settings allow. -/
def request (config : Cli.Config) (sent : Client.Outgoing) : IO Client.Reply := do
  let limit ← IO.asTask (failAt ((← clock) + config.joinTimeout))
  let answer ← IO.asTask (exchange sent)
  let first ← IO.waitAny [answer, limit]
  IO.cancel limit
  match first with
  | .ok reply => return reply
  | .error error =>
      return .unreachable [s!"error sending request for url ({sent.url})", toString error]

/-! ## Commands -/

/-- Runs an operation on the data directory and writes down what it changed. -/
def onDirectory {α : Type} (directory : String) (step : Disk.Step Agent.CommandError α) :
    IO (Except Agent.CommandError α) :=
  holdingTokens directory do
    let before ← load directory
    let (result, after) := step.run before
    store directory [Layout.tokensLock.names] before after
    return result

def addNode (config : Cli.Config) (token : Option String) (lifetime : Nat) : IO Agent.Ending := do
  let now := (← clock) / 1000
  return .of (← onDirectory config.dataDirectory
    (Agent.addNode config.bind token (← drawToken) lifetime (now : Nat)))

def hostname : IO Agent.SystemHostname := do
  match ← (IO.FS.readFile "/proc/sys/kernel/hostname").toBaseIO with
  | .ok text => return .ok text
  | .error error => return .error (.other (toString error))

def joinCluster (config : Cli.Config) (joining : Agent.Joining) : IO Agent.Ending := do
  let prepared ← onDirectory config.dataDirectory
    (Agent.prepareJoin (← hostname) config.bind.port joining (← drawToken))
  match prepared with
  | .error error => return .of (.error error)
  | .ok sent =>
      let reply ← request config sent
      return .of (← onDirectory config.dataDirectory (Agent.finishJoin joining sent reply))

/-! ## Serving -/

/-- Programs are not started from here: services are restarted from outside, and a manifest
that has changed waits for whoever applies it. -/
def programs : Programs.Table := fun _ => .error .notFound

/-- The surroundings of one request, for which the host that it names is looked up. -/
def surroundingsFor (config : Cli.Config) (request : Http.Request) : IO Surroundings := do
  let host :=
    match Http.joinRequest request with
    | .ok joining => joining.hostname
    | .error _ => ""
  let found ← if host.isEmpty then pure none else lookUp host
  let token ← drawToken
  return Agent.surroundings config (← interfaces) (fun name => if name = host then found else none)
    programs fun _ => token

/-- Answers a request. An answer that lies in the future was waited for: until its time has
come, the membership that the store writes meanwhile is taken into account. -/
partial def settle (config : Cli.Config) (surroundings : Surroundings) (request : Http.Request)
    (world : World) (stored : Disk) : IO Http.Response := do
  let limits : Http.Limits := ⟨config.joinTimeout, false⟩
  let (response, after) := Http.respond surroundings limits request world
  store config.dataDirectory [Layout.tokensLock.names, Layout.membership.names] stored after.disk
  let now ← clock
  if after.clock ≤ now then return response
  IO.sleep (min config.pollInterval (after.clock - now)).toUInt32
  let known := (world.diskAt now).content? Layout.membership.names
  let present := (← load config.dataDirectory).content? Layout.membership.names
  let time ← clock
  let deliveries : List Delivery :=
    match present with
    | some content =>
        if known.map ByteArray.data = some content.data then []
        else [⟨time, Layout.membership.names, content⟩]
    | none => []
  settle config surroundings request { world with pending := world.pending ++ deliveries }
    after.disk

def answer (config : Cli.Config) (request : Http.Request) : IO Http.Response := do
  let surroundings ← surroundingsFor config request
  holdingTokens config.dataDirectory do
    let disk ← load config.dataDirectory
    settle config surroundings request ⟨disk, ← clock, [], [], 0, none⟩ disk

def serveConnection (config : Cli.Config) (connection : TCP.Socket.Client) : IO Unit := do
  let name ← connection.getPeerName
  let some address := addressOf name.ipAddr | return
  let peer : SocketAddress := ⟨address, name.port.toNat, 0⟩
  let response ←
    match ← receive connection (fun _ => Http.Wire.readRequest peer) [] with
    | some request => answer config request
    | none => pure ⟨400, none, none, none⟩
  (connection.send (Http.Wire.writeResponse response)).block
  connection.shutdown.block

/-- Serves one connection after another until the program is interrupted. -/
partial def serveAll (config : Cli.Config) (server : TCP.Socket.Server)
    (interrupt : Signal.Waiter) : IO Unit := do
  let next ← (Selectable.one #[
    .case server.acceptSelector fun connection => return some connection,
    .case interrupt.selector fun _ => return none]).block
  match next with
  | none => return
  | some connection =>
      try serveConnection config connection
      catch error => IO.eprintln s!"connection failed: {error}"
      serveAll config server interrupt

def serve (config : Cli.Config) : IO Agent.Ending := do
  let server ← TCP.Socket.Server.mk
  let bound ← (do
    let some socket := socketOf config.bind.address config.bind.port
      | throw (IO.userError "not a usable address")
    server.bind socket
    server.listen 128).toBaseIO
  match bound with
  | .error error =>
      let report : Report := ⟨s!"bind {config.bind.toText}", [toString error]⟩
      return ⟨1, none, some s!"Error: {report.paragraphs}\n"⟩
  | .ok () =>
      serveAll config server (← Signal.Waiter.mk .sigint false)
      return ⟨0, some "", none⟩

/-! ## The command line -/

def environment : IO Cli.Values :=
  Cli.settings.filterMapM fun argument => do
    match argument.environmentName with
    | none => return none
    | some name => return (← IO.getEnv name).map fun value => (name, value)

def run : Cli.Invocation → IO Agent.Ending
  | ⟨some (.addNode token lifetime), config⟩ => addNode config token lifetime
  | ⟨some (.join peer token worker protocol hostname), config⟩ =>
      joinCluster config ⟨peer, token, worker, protocol, hostname⟩
  | ⟨_, config⟩ => serve config

/-- What is said of a command line that is not carried out. -/
def refusal : Cli.Error → Agent.Ending
  | .displayHelp =>
      ⟨0, some "Usage: clusterd [OPTIONS] [run | add-node | join <HOST:PORT>]\n", none⟩
  | .displayVersion => ⟨0, some s!"clusterd {Http.version}\n", none⟩
  | error => ⟨2, none, some s!"error: {error.name}\n"⟩

end Main
end ClusterAgent

def main (arguments : List String) : IO UInt32 := do
  let ending ←
    match ClusterAgent.Cli.parse (← ClusterAgent.Main.environment) arguments with
    | .ok invocation => ClusterAgent.Main.run invocation
    | .error error => pure (ClusterAgent.Main.refusal error)
  IO.print (ending.output.getD "")
  IO.eprint (ending.complaint.getD "")
  return ending.exit.toUInt32
